/-
Snapshots on the engine channel.

The control plane sends an engine its routes and users when it connects and whenever
one of them changes.  Sends run one after another: each reads both tables, takes the
next sequence number and writes to the sockets it was issued for.  The engine drops
what comes out of order.

* `ControlPlane` — the committed states, the chain of sends, the one that is being
  built;
* `Channel` — a control plane, an engine and the messages between them;
* `step` — what can happen next, in any order: commits, broadcasts, connects, reads,
  sends, deliveries in any order, failures and restarts on both sides;
* `ControlPlane.Ordered` — later messages carry later commits;
* `Owned` — what the engine's connection can carry;
* `Channel.Stored` — what the engine has stored;
* `snapshots_current` — in every run the stores hold the greatest snapshot received,
  which is never behind one that was delivered.

Design notes: the fields of `Channel` after `inFlight` are history, which no step
reads, as are the commits and processes of `Task`, `Build` and `Sent`.  A commit of
the database is counted for each of its two tables.  Messages are parsed when they
are delivered.
-/
import SbcEngine.ControlPlaneClient
import Mathlib.Order.Basic

namespace SbcEngine

/-! ### The control plane -/

/-- How many commits the routes and the users have seen, the first state not counted. -/
abbrev Commit := ℕ × ℕ

/-- A send that was issued: the sockets that were open, and the latest commits. -/
structure Task where
  sockets : List ℕ
  since : Commit
  deriving DecidableEq, Repr

/-- A send whose reads are running: the latest commits when they began, and the
commits they saw. -/
structure Build where
  task : Task
  start : Commit
  routes : Option ℕ
  users : Option ℕ
  deriving DecidableEq, Repr

/-- A snapshot message; `commit` is what its parts were read from, `since` the latest
commits when it was issued. -/
structure Sent (R U : Type) where
  routes : R
  users : U
  seq : ℤ
  process : ℕ
  commit : Commit
  since : Commit
  deriving DecidableEq, Repr

structure ControlPlane (R U : Type) where
  /-- The committed states, the latest last. -/
  routesLog : List R
  usersLog : List U
  /-- How often the process was restarted. -/
  process : ℕ
  nextSeq : ℤ
  /-- The open sockets. -/
  clients : List ℕ
  chain : List Task
  building : Option Build
  nextSocket : ℕ

/-- What the control plane does by itself. -/
inductive ControlPlaneEvent (R U : Type) where
  | commitRoutes (routes : R)
  | commitUsers (users : U)
  | broadcast
  | connection
  | close (socket : ℕ)
  | startTask
  | readRoutes (commit : ℕ)
  | readUsers (commit : ℕ)
  | buildFails
  | restart

namespace ControlPlane

variable {R U : Type}

def initial (routes : R) (users : U) : ControlPlane R U where
  routesLog := [routes]
  usersLog := [users]
  process := 0
  nextSeq := 1
  clients := []
  chain := []
  building := none
  nextSocket := 0

def latest (cp : ControlPlane R U) : Commit := (cp.routesLog.length - 1, cp.usersLog.length - 1)

/-- `enqueueOutbound(() => sendSnapshotTo(sockets))` -/
def enqueueOutbound (sockets : List ℕ) (cp : ControlPlane R U) : ControlPlane R U :=
  { cp with chain := cp.chain ++ [⟨sockets, cp.latest⟩] }

def broadcastSnapshot (cp : ControlPlane R U) : ControlPlane R U := cp.enqueueOutbound cp.clients

/-- A new socket, which gets a snapshot of its own. -/
def onConnection (cp : ControlPlane R U) : ControlPlane R U :=
  enqueueOutbound [cp.nextSocket]
    { cp with clients := cp.clients ++ [cp.nextSocket], nextSocket := cp.nextSocket + 1 }

/-- The next send runs once the one before it has settled; without sockets it is
done at once. -/
def startTask (cp : ControlPlane R U) : Option (ControlPlane R U) :=
  match cp.building, cp.chain with
  | none, task :: rest =>
    -- `sendSnapshotTo` returns before it reads
    if task.sockets = [] then some { cp with chain := rest }
    else some { cp with chain := rest, building := some ⟨task, cp.latest, none, none⟩ }
  | _, _ => none

/-- The reads see states that were committed since they began. -/
def readRoutes (commit : ℕ) (cp : ControlPlane R U) : Option (ControlPlane R U) :=
  match cp.building with
  | none => none
  | some b =>
    if b.routes = none ∧ b.start.1 ≤ commit ∧ commit ≤ cp.latest.1 then
      some { cp with building := some { b with routes := some commit } }
    else none

def readUsers (commit : ℕ) (cp : ControlPlane R U) : Option (ControlPlane R U) :=
  match cp.building with
  | none => none
  | some b =>
    if b.users = none ∧ b.start.2 ≤ commit ∧ commit ≤ cp.latest.2 then
      some { cp with building := some { b with users := some commit } }
    else none

/-- The message with the next sequence number, and the sockets it goes to. -/
def sendSnapshot (cp : ControlPlane R U) : Option (ControlPlane R U × List ℕ × Sent R U) :=
  match cp.building with
  | none => none
  | some b =>
    match b.routes, b.users with
    | some i, some j =>
      match cp.routesLog[i]?, cp.usersLog[j]? with
      | some routes, some users =>
        -- the number is taken after the reads, so numbers and commits grow together
        some ({ cp with building := none, nextSeq := cp.nextSeq + 1 }, b.task.sockets,
          ⟨routes, users, cp.nextSeq, cp.process, (i, j), b.task.since⟩)
      | _, _ => none
    | _, _ => none

/-- A new process: the sockets and the sends of the old one are gone. -/
def restart (cp : ControlPlane R U) : ControlPlane R U :=
  { cp with
    process := cp.process + 1
    nextSeq := 1
    clients := []
    chain := []
    building := none }

def step (cp : ControlPlane R U) : ControlPlaneEvent R U → Option (ControlPlane R U)
  | .commitRoutes routes => some { cp with routesLog := cp.routesLog ++ [routes] }
  | .commitUsers users => some { cp with usersLog := cp.usersLog ++ [users] }
  | .broadcast => some cp.broadcastSnapshot
  | .connection => some cp.onConnection
  | .close socket => some { cp with clients := cp.clients.filter (· ≠ socket) }
  | .startTask => cp.startTask
  | .readRoutes commit => cp.readRoutes commit
  | .readUsers commit => cp.readUsers commit
  | .buildFails => cp.building.map fun _ => { cp with building := none }
  | .restart => some cp.restart

end ControlPlane

/-! ### The channel -/

structure Channel (R U : Type) where
  controlPlane : ControlPlane R U
  engine : Client R U
  /-- The socket of the engine's connection, once it was accepted. -/
  socket : Option ℕ
  inFlight : List (ℕ × Sent R U)
  /-- Every message that was sent. -/
  sent : List (Sent R U)
  /-- The process that accepted the engine's connection. -/
  joined : ℕ
  /-- What was delivered on the engine's connection. -/
  received : List (Sent R U)
  /-- The sequence numbers applied on the engine's connection. -/
  applied : List ℤ
  /-- What the engine applied last, and what that was when it began to connect. -/
  stored : Option (Sent R U)
  base : Option (Sent R U)
  /-- Everything that was delivered to the engine. -/
  delivered : List (Sent R U)

inductive ChannelEvent (E R U : Type) where
  | controlPlane (e : ControlPlaneEvent R U)
  | accept
  | send
  | engine (e : Handler E)
  | deliver (k : ℕ)

namespace Channel

variable {E R U : Type}

def initial (routes : R) (users : U) : Channel R U where
  controlPlane := .initial routes users
  engine := .started
  socket := none
  inFlight := []
  sent := []
  joined := 0
  received := []
  applied := []
  stored := none
  base := none
  delivered := []

/-- The handler begins a connection. -/
def connects (x : Client R U) : Handler E → Bool
  | .startTask => !x.stopped
  | .retryTimer => !x.stopped
  | _ => false

/-- The handler is given an envelope. -/
def isEnvelope (W : WsCodec E R U) : Handler E → Bool
  | .message raw _ =>
    match W.parseIncomingMessage raw with
    | some (.envelope _ _ _ _) => true
    | _ => false
  | _ => false

/-- The engine has a connection that is not closed. -/
def engineOpen (x : Channel R U) : Bool := x.engine.connection.any (!·.closed)

/-- A snapshot reaches the engine. -/
def receive (x : Channel R U) (m : Sent R U) : Channel R U :=
  let x : Channel R U :=
    { x with
      received := x.received ++ [m]
      delivered := x.delivered ++ [m]
      -- `on_message` drops what is not newer than the last it has applied
      applied := if m.seq ≤ x.engine.lastSeq then x.applied else x.applied ++ [m.seq]
      stored := if m.seq ≤ x.engine.lastSeq then x.stored else some m }
  { x with engine := x.engine.onEnvelope "snapshot" (some m.routes) (some m.users) (some m.seq) }

/-- A handler of the engine runs; beginning a connection begins its history. -/
def runHandler (W : WsCodec E R U) (x : Channel R U) (e : Handler E) : Option (Channel R U) :=
  -- snapshots come by `deliver` only
  if isEnvelope W e then none
  else
    (x.engine.handle W e).map fun engine =>
      if connects x.engine e then
        { x with
          engine := engine
          socket := none
          received := []
          applied := []
          base := x.stored }
      else { x with engine := engine }

def step (W : WsCodec E R U) (x : Channel R U) : ChannelEvent E R U → Option (Channel R U)
  | .controlPlane e => (x.controlPlane.step e).map fun cp => { x with controlPlane := cp }
  | .accept =>
    if x.engineOpen ∧ x.socket = none then
      some { x with
        controlPlane := x.controlPlane.onConnection
        socket := some x.controlPlane.nextSocket
        joined := x.controlPlane.process }
    else none
  | .send =>
    x.controlPlane.sendSnapshot.map fun (cp, sockets, m) =>
      { x with
        controlPlane := cp
        inFlight := x.inFlight ++ sockets.map fun s => (s, m)
        sent := x.sent ++ [m] }
  | .engine e => x.runHandler W e
  | .deliver k =>
    match x.inFlight[k]? with
    | none => none
    | some (s, m) =>
      -- any message of the socket may be next
      if x.engineOpen ∧ x.socket = some s then
        some { x.receive m with inFlight := x.inFlight.eraseIdx k }
      else none

end Channel

/-! ### Later messages carry later commits -/

/-- A message sent before another: its parts are not newer, and within one process its
sequence number is lower. -/
structure Sent.Before {R U : Type} (a b : Sent R U) : Prop where
  commit : a.commit ≤ b.commit
  process : a.process ≤ b.process
  seq : a.process = b.process → a.seq < b.seq

namespace ControlPlane

variable {R U : Type}

/-- A message was issued, then read, from states that are in the logs. -/
structure Carries (cp : ControlPlane R U) (m : Sent R U) : Prop where
  since : m.since ≤ m.commit
  routes : cp.routesLog[m.commit.1]? = some m.routes
  users : cp.usersLog[m.commit.2]? = some m.users
  seq : 1 ≤ m.seq
  process : m.process ≤ cp.process
  before : m.process = cp.process → m.seq < cp.nextSeq

/-- The send that is being built: it was issued, then begun, and its reads see what
was committed since. -/
structure Reads (cp : ControlPlane R U) (b : Build) : Prop where
  start : b.task.since ≤ b.start
  latest : b.start ≤ cp.latest
  routes : ∀ i, b.routes = some i → b.start.1 ≤ i ∧ i ≤ cp.latest.1
  users : ∀ j, b.users = some j → b.start.2 ≤ j ∧ j ≤ cp.latest.2
  sockets : ∀ s ∈ b.task.sockets, s < cp.nextSocket

/-- What holds of a control plane and the messages it has sent. -/
structure Ordered (cp : ControlPlane R U) (sent : List (Sent R U)) : Prop where
  routesLog : cp.routesLog ≠ []
  usersLog : cp.usersLog ≠ []
  nextSeq : 1 ≤ cp.nextSeq
  clients : ∀ s ∈ cp.clients, s < cp.nextSocket
  chain : ∀ task ∈ cp.chain, task.since ≤ cp.latest ∧ ∀ s ∈ task.sockets, s < cp.nextSocket
  building : ∀ b, cp.building = some b → cp.Reads b ∧ ∀ m ∈ sent, m.commit ≤ b.start
  carried : ∀ m ∈ sent, cp.Carries m
  sorted : sent.Pairwise Sent.Before

/-- A message carries nothing newer than the latest commits. -/
theorem Carries.le_latest {cp : ControlPlane R U} {m : Sent R U} (h : cp.Carries m) :
    m.commit ≤ cp.latest := by
  obtain ⟨hroutes, -⟩ := List.getElem?_eq_some_iff.mp h.routes
  obtain ⟨husers, -⟩ := List.getElem?_eq_some_iff.mp h.users
  exact ⟨Nat.le_sub_one_of_lt hroutes, Nat.le_sub_one_of_lt husers⟩

/-- Of two messages of one process, the one with the higher sequence number is the
later one. -/
theorem Ordered.commit_le {cp : ControlPlane R U} {sent : List (Sent R U)} (h : cp.Ordered sent)
    {a b : Sent R U} (ha : a ∈ sent) (hb : b ∈ sent) (hprocess : a.process = b.process)
    (hseq : a.seq ≤ b.seq) : a.commit ≤ b.commit := by
  -- the messages are sorted by both, so either comparison decides the other
  refine List.Pairwise.forall_of_forall_of_flip
    (R := fun a b => a.process = b.process → a.seq ≤ b.seq → a.commit ≤ b.commit)
    (fun _ _ _ _ => le_refl _) (h.sorted.imp fun hbefore _ _ => hbefore.commit)
    (h.sorted.imp fun hbefore hprocess hle => ?_) ha hb hprocess hseq
  exact absurd (hbefore.seq hprocess.symm) (Int.not_lt.mpr hle)

section Step

variable {cp cp' : ControlPlane R U} {sent : List (Sent R U)}

/-- The logs grow, the rest of what messages rest on stays. -/
structure Grows (cp cp' : ControlPlane R U) : Prop where
  routesLog : cp.routesLog <+: cp'.routesLog
  usersLog : cp.usersLog <+: cp'.usersLog
  nextSocket : cp.nextSocket ≤ cp'.nextSocket
  process : cp.process ≤ cp'.process
  nextSeq : cp.process = cp'.process → cp.nextSeq ≤ cp'.nextSeq

theorem Grows.latest (h : Grows cp cp') : cp.latest ≤ cp'.latest :=
  ⟨Nat.sub_le_sub_right h.routesLog.length_le 1, Nat.sub_le_sub_right h.usersLog.length_le 1⟩

theorem Grows.carries (h : Grows cp cp') {m : Sent R U} (hm : cp.Carries m) : cp'.Carries m where
  since := hm.since
  routes := by
    obtain ⟨rest, hrest⟩ := h.routesLog
    obtain ⟨hlt, -⟩ := List.getElem?_eq_some_iff.mp hm.routes
    rw [← hrest, List.getElem?_append_left hlt]
    exact hm.routes
  users := by
    obtain ⟨rest, hrest⟩ := h.usersLog
    obtain ⟨hlt, -⟩ := List.getElem?_eq_some_iff.mp hm.users
    rw [← hrest, List.getElem?_append_left hlt]
    exact hm.users
  seq := hm.seq
  process := Nat.le_trans hm.process h.process
  before hprocess := by
    have hsame : cp.process = cp'.process := by
      have hle := hm.process
      have hgrows := h.process
      omega
    have hlt := hm.before (hprocess.trans hsame.symm)
    have hle := h.nextSeq hsame
    omega

theorem Grows.reads (h : Grows cp cp') {b : Build} (hb : cp.Reads b) : cp'.Reads b where
  start := hb.start
  latest := hb.latest.trans h.latest
  routes i hi := ⟨(hb.routes i hi).1, Nat.le_trans (hb.routes i hi).2 h.latest.1⟩
  users j hj := ⟨(hb.users j hj).1, Nat.le_trans (hb.users j hj).2 h.latest.2⟩
  sockets s hs := Nat.lt_of_lt_of_le (hb.sockets s hs) h.nextSocket

theorem Grows.of_eq (hroutes : cp'.routesLog = cp.routesLog) (husers : cp'.usersLog = cp.usersLog)
    (hsocket : cp'.nextSocket = cp.nextSocket) (hprocess : cp'.process = cp.process)
    (hseq : cp'.nextSeq = cp.nextSeq) : Grows cp cp' :=
  ⟨hroutes ▸ List.prefix_refl _, husers ▸ List.prefix_refl _, Nat.le_of_eq hsocket.symm,
    Nat.le_of_eq hprocess.symm, fun _ => Int.le_of_eq hseq.symm⟩

/-- A read of a build has seen what it had, or something committed since it began. -/
def Seen (start latest : ℕ) (before after : Option ℕ) : Prop :=
  after = before ∨ ∃ i, after = some i ∧ start ≤ i ∧ i ≤ latest

/-- Everything a step of the control plane can do to its sends. -/
structure Steps (cp cp' : ControlPlane R U) : Prop where
  grows : Grows cp cp'
  nextSeq : 1 ≤ cp.nextSeq → 1 ≤ cp'.nextSeq
  clients : ∀ s ∈ cp'.clients, s ∈ cp.clients ∨ s = cp.nextSocket ∧ s < cp'.nextSocket
  chain : ∀ task ∈ cp'.chain, task ∈ cp.chain ∨
    task.since = cp'.latest ∧ ∀ s ∈ task.sockets, s ∈ cp'.clients
  building : ∀ b', cp'.building = some b' →
    (∃ b, cp.building = some b ∧ b'.task = b.task ∧ b'.start = b.start ∧
      Seen b.start.1 cp.latest.1 b.routes b'.routes ∧ Seen b.start.2 cp.latest.2 b.users b'.users) ∨
    b'.task ∈ cp.chain ∧ b'.start = cp'.latest ∧ b'.routes = none ∧ b'.users = none
  process : cp'.process = cp.process ∨ cp'.clients = [] ∧ cp'.chain = [] ∧ cp'.building = none

/-- A step that leaves sockets, sends and the build alone. -/
theorem Steps.of_grows (h : Grows cp cp') (hprocess : cp'.process = cp.process)
    (hseq : cp'.nextSeq = cp.nextSeq) (hclients : ∀ s ∈ cp'.clients, s ∈ cp.clients)
    (hchain : cp'.chain = cp.chain) (hbuilding : cp'.building = cp.building) : Steps cp cp' where
  grows := h
  nextSeq := by rw [hseq]; exact id
  clients s hs := .inl (hclients s hs)
  chain task htask := .inl (hchain ▸ htask)
  building b hb := .inl ⟨b, hbuilding ▸ hb, rfl, rfl, .inl rfl, .inl rfl⟩
  process := .inl hprocess

/-- A step that touches only the sends and the build. -/
theorem Steps.of_sends {chain : List Task} {building : Option Build}
    (hchain : ∀ task ∈ chain, task ∈ cp.chain ∨
      task.since = cp.latest ∧ ∀ s ∈ task.sockets, s ∈ cp.clients)
    (hbuilding : ∀ b', building = some b' →
      (∃ b, cp.building = some b ∧ b'.task = b.task ∧ b'.start = b.start ∧
        Seen b.start.1 cp.latest.1 b.routes b'.routes ∧
        Seen b.start.2 cp.latest.2 b.users b'.users) ∨
      b'.task ∈ cp.chain ∧ b'.start = cp.latest ∧ b'.routes = none ∧ b'.users = none) :
    Steps cp { cp with chain := chain, building := building } where
  grows := .of_eq rfl rfl rfl rfl rfl
  nextSeq := id
  clients _ hs := .inl hs
  chain := hchain
  building := hbuilding
  process := .inl rfl

theorem onConnection_steps (cp : ControlPlane R U) : Steps cp cp.onConnection where
  grows := ⟨List.prefix_refl _, List.prefix_refl _, Nat.le_succ _, Nat.le_refl _, fun _ => Int.le_refl _⟩
  nextSeq := id
  clients s hs := by
    rcases List.mem_append.mp hs with hold | hnew
    · exact .inl hold
    · rw [List.mem_singleton.mp hnew]
      exact .inr ⟨rfl, Nat.lt_succ_self _⟩
  chain task htask := by
    rcases List.mem_append.mp htask with hold | hnew
    · exact .inl hold
    · rw [List.mem_singleton.mp hnew]
      exact .inr ⟨rfl, fun s hs => List.mem_append_right _ hs⟩
  building b hb := .inl ⟨b, hb, rfl, rfl, .inl rfl, .inl rfl⟩
  process := .inl rfl

theorem startTask_steps (h : cp.startTask = some cp') : Steps cp cp' := by
  rw [startTask] at h
  split at h
  · rename_i task rest hbuilding hchain
    have hrest : ∀ t ∈ rest, t ∈ cp.chain := fun t ht => by
      rw [hchain]
      exact List.mem_cons_of_mem _ ht
    split_ifs at h
    · cases h
      refine .of_sends (fun t ht => .inl (hrest t ht)) fun b hb => ?_
      rw [hbuilding] at hb
      cases hb
    · cases h
      refine .of_sends (fun t ht => .inl (hrest t ht)) fun b hb => ?_
      obtain rfl := Option.some.inj hb
      refine .inr ⟨?_, rfl, rfl, rfl⟩
      rw [hchain]
      exact List.mem_cons_self
  · cases h

theorem readRoutes_steps {commit : ℕ} (h : cp.readRoutes commit = some cp') : Steps cp cp' := by
  rw [readRoutes] at h
  split at h
  · cases h
  · rename_i b hb
    split_ifs at h with hcond
    cases h
    refine .of_sends (fun t ht => .inl ht) fun b' hb' => ?_
    obtain rfl := Option.some.inj hb'
    exact .inl ⟨b, hb, rfl, rfl, .inr ⟨commit, rfl, hcond.2⟩, .inl rfl⟩

theorem readUsers_steps {commit : ℕ} (h : cp.readUsers commit = some cp') : Steps cp cp' := by
  rw [readUsers] at h
  split at h
  · cases h
  · rename_i b hb
    split_ifs at h with hcond
    cases h
    refine .of_sends (fun t ht => .inl ht) fun b' hb' => ?_
    obtain rfl := Option.some.inj hb'
    exact .inl ⟨b, hb, rfl, rfl, .inl rfl, .inr ⟨commit, rfl, hcond.2⟩⟩

theorem step_steps {e : ControlPlaneEvent R U} (h : cp.step e = some cp') : Steps cp cp' := by
  cases e with
  | commitRoutes routes =>
    cases h
    exact .of_grows ⟨List.prefix_append _ _, List.prefix_refl _, Nat.le_refl _, Nat.le_refl _,
      fun _ => Int.le_refl _⟩ rfl rfl (fun _ hs => hs) rfl rfl
  | commitUsers users =>
    cases h
    exact .of_grows ⟨List.prefix_refl _, List.prefix_append _ _, Nat.le_refl _, Nat.le_refl _,
      fun _ => Int.le_refl _⟩ rfl rfl (fun _ hs => hs) rfl rfl
  | broadcast =>
    cases h
    refine .of_sends (fun task htask => ?_)
      fun b hb => .inl ⟨b, hb, rfl, rfl, .inl rfl, .inl rfl⟩
    rcases List.mem_append.mp htask with hold | hnew
    · exact .inl hold
    · rw [List.mem_singleton.mp hnew]
      exact .inr ⟨rfl, fun s hs => hs⟩
  | connection =>
    cases h
    exact onConnection_steps cp
  | close socket =>
    cases h
    exact .of_grows (.of_eq rfl rfl rfl rfl rfl) rfl rfl (fun s hs => List.mem_of_mem_filter hs) rfl rfl
  | startTask => exact startTask_steps h
  | readRoutes commit => exact readRoutes_steps h
  | readUsers commit => exact readUsers_steps h
  | buildFails =>
    obtain ⟨b, -, rfl⟩ := Option.map_eq_some_iff.mp h
    exact .of_sends (fun t ht => .inl ht) fun b hb => by cases hb
  | restart =>
    cases h
    exact
      { grows := ⟨List.prefix_refl _, List.prefix_refl _, Nat.le_refl _, Nat.le_succ _,
          fun hsame => absurd hsame (Nat.ne_of_lt (Nat.lt_succ_self _))⟩
        nextSeq := fun _ => Int.le_refl _
        clients := fun s hs => by cases hs
        chain := fun t ht => by cases ht
        building := fun b hb => by cases hb
        process := .inr ⟨rfl, rfl, rfl⟩ }

/-- Steps keep the order. -/
theorem Steps.ordered (h : Steps cp cp') (hcp : cp.Ordered sent) : cp'.Ordered sent where
  routesLog hnil := hcp.routesLog (List.prefix_nil.mp (hnil ▸ h.grows.routesLog))
  usersLog hnil := hcp.usersLog (List.prefix_nil.mp (hnil ▸ h.grows.usersLog))
  nextSeq := h.nextSeq hcp.nextSeq
  clients s hs := by
    rcases h.clients s hs with hold | ⟨-, hnew⟩
    · exact Nat.lt_of_lt_of_le (hcp.clients s hold) h.grows.nextSocket
    · exact hnew
  chain task htask := by
    rcases h.chain task htask with hold | ⟨hsince, hsockets⟩
    · exact ⟨(hcp.chain task hold).1.trans h.grows.latest,
        fun s hs => Nat.lt_of_lt_of_le ((hcp.chain task hold).2 s hs) h.grows.nextSocket⟩
    · refine ⟨hsince ▸ le_refl _, fun s hs => ?_⟩
      rcases h.clients s (hsockets s hs) with hold | ⟨-, hnew⟩
      · exact Nat.lt_of_lt_of_le (hcp.clients s hold) h.grows.nextSocket
      · exact hnew
  building b hb := by
    rcases h.building b hb with ⟨b₀, hb₀, htask, hstart, hroutes, husers⟩ | ⟨htask, hstart, hr, hu⟩
    -- a build that goes on: a read has seen something since the build began
    · obtain ⟨hreads, hbefore⟩ := hcp.building b₀ hb₀
      have hgrown := h.grows.reads hreads
      refine ⟨⟨?_, ?_, fun i hi => ?_, fun j hj => ?_, ?_⟩, hstart ▸ hbefore⟩
      · rw [htask, hstart]
        exact hgrown.start
      · rw [hstart]
        exact hgrown.latest
      · rw [hstart]
        rcases hroutes with hsame | ⟨i', hi', hlow, hhigh⟩
        · exact hgrown.routes i (hsame ▸ hi)
        · rw [hi] at hi'
          obtain rfl := Option.some.inj hi'
          exact ⟨hlow, Nat.le_trans hhigh h.grows.latest.1⟩
      · rw [hstart]
        rcases husers with hsame | ⟨j', hj', hlow, hhigh⟩
        · exact hgrown.users j (hsame ▸ hj)
        · rw [hj] at hj'
          obtain rfl := Option.some.inj hj'
          exact ⟨hlow, Nat.le_trans hhigh h.grows.latest.2⟩
      · rw [htask]
        exact hgrown.sockets
    -- a build that begins: everything sent so far was committed before
    · obtain ⟨hsince, hsockets⟩ := hcp.chain b.task htask
      refine ⟨⟨?_, hstart ▸ le_refl _, fun i hi => ?_, fun j hj => ?_, fun s hs => ?_⟩,
        fun m hm => ?_⟩
      · rw [hstart]
        exact hsince.trans h.grows.latest
      · rw [hr] at hi
        cases hi
      · rw [hu] at hj
        cases hj
      · exact Nat.lt_of_lt_of_le (hsockets s hs) h.grows.nextSocket
      · rw [hstart]
        exact (hcp.carried m hm).le_latest.trans h.grows.latest
  carried m hm := h.grows.carries (hcp.carried m hm)
  sorted := hcp.sorted

/-- What a send does: the message carries what the reads saw, with the next number. -/
theorem sendSnapshot_sent {sockets : List ℕ} {m : Sent R U}
    (h : cp.sendSnapshot = some (cp', sockets, m)) :
    ∃ b i j, cp.building = some b ∧ b.routes = some i ∧ b.users = some j ∧
      cp.routesLog[i]? = some m.routes ∧ cp.usersLog[j]? = some m.users ∧
      m.seq = cp.nextSeq ∧ m.process = cp.process ∧ m.commit = (i, j) ∧ m.since = b.task.since ∧
      sockets = b.task.sockets ∧ cp' = { cp with building := none, nextSeq := cp.nextSeq + 1 } := by
  rw [sendSnapshot] at h
  split at h
  · cases h
  rename_i b hb
  split at h
  · rename_i i j hi hj
    split at h
    · rename_i routes users hroutes husers
      cases h
      exact ⟨b, i, j, hb, hi, hj, hroutes, husers, rfl, rfl, rfl, rfl, rfl, rfl⟩
    · cases h
  · cases h

theorem send_ordered {sockets : List ℕ} {m : Sent R U} (hcp : cp.Ordered sent)
    (h : cp.sendSnapshot = some (cp', sockets, m)) : cp'.Ordered (sent ++ [m]) := by
  obtain ⟨b, i, j, hb, hi, hj, hroutes, husers, hseq, hprocess, hcommit, hsince, -, rfl⟩ :=
    sendSnapshot_sent h
  obtain ⟨hreads, hbefore⟩ := hcp.building b hb
  -- every earlier message is behind the start of the build, hence behind this one
  have hstart : b.start ≤ m.commit := by
    rw [hcommit]
    exact ⟨(hreads.routes i hi).1, (hreads.users j hj).1⟩
  have hgrows : Grows cp { cp with building := none, nextSeq := cp.nextSeq + 1 } :=
    ⟨List.prefix_refl _, List.prefix_refl _, Nat.le_refl _, Nat.le_refl _, fun _ => by
      show cp.nextSeq ≤ cp.nextSeq + 1
      omega⟩
  refine ⟨hcp.routesLog, hcp.usersLog, ?_, hcp.clients, hcp.chain, fun b hb => (by cases hb), ?_, ?_⟩
  · have hpos := hcp.nextSeq
    show 1 ≤ cp.nextSeq + 1
    omega
  · intro m' hm'
    rcases List.mem_append.mp hm' with hold | hnew
    · exact hgrows.carries (hcp.carried m' hold)
    · obtain rfl := List.mem_singleton.mp hnew
      refine ⟨?_, ?_, ?_, ?_, ?_, fun _ => ?_⟩
      · rw [hsince]
        exact hreads.start.trans hstart
      · rw [hcommit]
        exact hroutes
      · rw [hcommit]
        exact husers
      · rw [hseq]
        exact hcp.nextSeq
      · rw [hprocess]
      · rw [hseq]
        exact Int.lt_succ _
  · refine List.pairwise_append.mpr ⟨hcp.sorted, List.pairwise_singleton _ _, fun a ha b' hb' => ?_⟩
    obtain rfl := List.mem_singleton.mp hb'
    refine ⟨(hbefore a ha).trans hstart, ?_, fun hsame => ?_⟩
    · rw [hprocess]
      exact (hcp.carried a ha).process
    · rw [hseq]
      exact (hcp.carried a ha).before (hsame.trans hprocess)

end Step

end ControlPlane

/-! ### What the engine's handlers leave alone -/

namespace Client

variable {E R U : Type}

/-- What an envelope acts on. -/
def view (x : Client R U) : ℤ × Option R × Option U := (x.lastSeq, x.routesStore, x.usersStore)

section View

variable (x : Client R U)

theorem connectionFail_view (stage : WsStage) (err : WsError) :
    (x.connectionFail stage err).view = x.view := by
  rw [connectionFail]
  split
  · rfl
  · split_ifs
    · rfl
    · rfl

theorem writeNext_view (ok : Bool) : (x.writeNext ok).view = x.view := by
  rcases writeNext_cases x ok with ⟨heq, -⟩ | ⟨c, m, queue, -, -, -, heq⟩
  · rw [heq]
    rfl
  · rw [heq]
    split_ifs
    · rfl
    · exact connectionFail_view _ _ _

theorem resolveIfDrained_view : x.resolveIfDrained.view = x.view := by
  rw [resolveIfDrained_eq]
  rfl

theorem onWriteComplete_view (ok : Bool) : (x.onWriteComplete ok).view = x.view := by
  rw [onWriteComplete, writeNext_view, resolveIfDrained_view]
  rfl

theorem scheduleReconnect_view : x.scheduleReconnect.view = x.view := by
  rw [scheduleReconnect]
  split_ifs
  · rfl
  · rfl

theorem failureTask_view (stage : WsStage) (err : WsError) :
    (x.failureTask stage err).view = x.view := by
  have hdropped : x.dropConnection.resolveIfDrained.view = x.view := resolveIfDrained_view _
  rw [failureTask]
  split_ifs
  · rw [handleSetupFailure]
    split_ifs
    · exact (scheduleReconnect_view _).trans hdropped
    · exact hdropped
  · exact hdropped
  · exact (scheduleReconnect_view _).trans hdropped

theorem doEnqueue_view (W : WsCodec E R U) (envelope : E) (bestEffort ok : Bool) :
    (x.doEnqueue W envelope bestEffort ok).view = x.view := by
  rcases doEnqueue_cases W x envelope bestEffort ok with heq | ⟨payload, queue, -, -, heq⟩
  · rw [heq]
  · rw [heq]
    exact writeNext_view _ _

theorem onAckTimeout_view (generation : UInt64) : (x.onAckTimeout generation).view = x.view := by
  rw [onAckTimeout]
  split_ifs
  · rfl
  · rfl

/-- A handler that is given no envelope leaves the stores, and the last sequence
number unless it begins a connection. -/
theorem handle_view {W : WsCodec E R U} {x x' : Client R U} {e : Handler E}
    (hx : x.handle W e = some x') (henvelope : Channel.isEnvelope W e = false) :
    x'.view =
      if Channel.connects x e then (0, x.routesStore, x.usersStore) else x.view := by
  cases handle_cases hx with
  | startTask h =>
    rw [doConnect, Channel.connects]
    cases hstopped : x.stopped with
    | true => rfl
    | false => rfl
  | retryTimer h =>
    rw [doConnect, Channel.connects]
    cases hstopped : x.stopped with
    | true => rfl
    | false => rfl
  | opened _ _ _ ok => exact writeNext_view _ ok
  | malformed => rfl
  | ack _ _ _ ok => exact onWriteComplete_view _ ok
  | envelope _ _ hparse ok =>
    rw [Channel.isEnvelope, hparse] at henvelope
    cases henvelope
  | connectionFailed => exact connectionFail_view _ _ _
  | failureTask => exact failureTask_view _ _ _
  | enqueue => exact doEnqueue_view _ _ _ _ _
  | ackTimerExpires => rfl
  | ackTimeout => exact onAckTimeout_view _ _
  | firstSnapshotTimeout => rfl
  | flush => exact resolveIfDrained_view _
  | stopAgain => rfl
  | stop => rfl
  | stopTask => rfl

end View

end Client

/-! ### The engine's connection -/

/-- What the sends and the messages for the engine's socket can be: of the process
that accepted it, and not behind `base`. -/
structure Owned {R U : Type} (cp : ControlPlane R U) (inFlight : List (ℕ × Sent R U)) (joined : ℕ)
    (base : Option (Sent R U)) (s : ℕ) : Prop where
  socket : s < cp.nextSocket
  clients : s ∈ cp.clients → cp.process = joined
  chain : ∀ task ∈ cp.chain, s ∈ task.sockets →
    cp.process = joined ∧ ∀ m, base = some m → m.commit ≤ task.since
  building : ∀ b, cp.building = some b → s ∈ b.task.sockets →
    cp.process = joined ∧ ∀ m, base = some m → m.commit ≤ b.task.since
  inFlight : ∀ m, (s, m) ∈ inFlight →
    m.process = joined ∧ ∀ m', base = some m' → m'.commit ≤ m.since

namespace Owned

variable {R U : Type} {cp cp' : ControlPlane R U} {inFlight : List (ℕ × Sent R U)} {joined : ℕ}
  {base : Option (Sent R U)} {s : ℕ}

/-- Sends that are issued later carry nothing older. -/
theorem steps (h : Owned cp inFlight joined base s) (hsteps : ControlPlane.Steps cp cp')
    (hbase : ∀ m, base = some m → m.commit ≤ cp.latest) : Owned cp' inFlight joined base s where
  socket := Nat.lt_of_lt_of_le h.socket hsteps.grows.nextSocket
  clients hs := by
    rcases hsteps.process with hsame | ⟨hnil, -⟩
    · rw [hsame]
      rcases hsteps.clients s hs with hold | ⟨hnew, -⟩
      · exact h.clients hold
      · exact absurd h.socket (hnew ▸ Nat.lt_irrefl _)
    · rw [hnil] at hs
      cases hs
  chain task htask hs := by
    rcases hsteps.process with hsame | ⟨-, hnil, -⟩
    · rw [hsame]
      rcases hsteps.chain task htask with hold | ⟨hsince, hsockets⟩
      · exact h.chain task hold hs
      · refine ⟨?_, fun m hm => ?_⟩
        · rcases hsteps.clients s (hsockets s hs) with hold | ⟨hnew, -⟩
          · exact h.clients hold
          · exact absurd h.socket (hnew ▸ Nat.lt_irrefl _)
        · rw [hsince]
          exact (hbase m hm).trans hsteps.grows.latest
    · rw [hnil] at htask
      cases htask
  building b hb hs := by
    rcases hsteps.process with hsame | ⟨-, -, hnone⟩
    · rw [hsame]
      rcases hsteps.building b hb with ⟨b₀, hb₀, htask, -⟩ | ⟨htask, -⟩
      · rw [htask] at hs ⊢
        exact h.building b₀ hb₀ hs
      · exact h.chain b.task htask hs
    · rw [hnone] at hb
      cases hb
  inFlight := h.inFlight

/-- A send puts messages on the wire that the build was allowed to carry. -/
theorem send {sockets : List ℕ} {m : Sent R U} (h : Owned cp inFlight joined base s)
    (hsend : cp.sendSnapshot = some (cp', sockets, m)) :
    Owned cp' (inFlight ++ sockets.map fun s => (s, m)) joined base s := by
  obtain ⟨b, i, j, hb, -, -, -, -, -, hprocess, -, hsince, rfl, rfl⟩ :=
    ControlPlane.sendSnapshot_sent hsend
  refine ⟨h.socket, h.clients, h.chain, fun b hb => (by cases hb), fun m' hm' => ?_⟩
  rcases List.mem_append.mp hm' with hold | hnew
  · exact h.inFlight m' hold
  · obtain ⟨s', hs', heq⟩ := List.mem_map.mp hnew
    obtain ⟨rfl, rfl⟩ := Prod.mk.inj heq
    rw [hprocess, hsince]
    exact h.building b hb hs'

end Owned

/-! ### What the engine has stored -/

namespace Channel

variable {E R U : Type}

/-- The stores hold the message applied last, which is the greatest of the
connection, and not behind any that was delivered. -/
structure Stored (x : Channel R U) : Prop where
  routesStore : x.engine.routesStore = x.stored.map (·.routes)
  usersStore : x.engine.usersStore = x.stored.map (·.users)
  sent : ∀ m, x.stored = some m → m ∈ x.sent
  base : ∀ m, x.base = some m → ∃ m', x.stored = some m' ∧ m.commit ≤ m'.commit
  fresh : x.received = [] → x.engine.lastSeq = 0 ∧ x.stored = x.base
  received : ∀ m ∈ x.received, m ∈ x.sent ∧ m.process = x.joined
  greatest : x.received ≠ [] → ∃ m ∈ x.received, x.stored = some m ∧ x.engine.lastSeq = m.seq ∧
    ∀ m' ∈ x.received, m'.seq ≤ m.seq
  increasing : x.applied.Pairwise (· < ·)
  applied : ∀ seq ∈ x.applied, seq ≤ x.engine.lastSeq
  delivered : ∀ m ∈ x.delivered, m ∈ x.sent ∧ ∃ m', x.stored = some m' ∧ m.commit ≤ m'.commit
  accepted : x.socket = none → x.received = []

/-- What holds in every run. -/
structure Sound (x : Channel R U) : Prop where
  ordered : x.controlPlane.Ordered x.sent
  wire : ∀ p ∈ x.inFlight, p.1 < x.controlPlane.nextSocket ∧ p.2 ∈ x.sent
  owned : ∀ s, x.socket = some s → Owned x.controlPlane x.inFlight x.joined x.base s
  stored : x.Stored

/-- The message that was stored when the connection began is not ahead of the
database. -/
theorem Sound.base_le {x : Channel R U} (h : x.Sound) {m : Sent R U} (hm : x.base = some m) :
    m.commit ≤ x.controlPlane.latest := by
  obtain ⟨m', hm', hle⟩ := h.stored.base m hm
  exact hle.trans (h.ordered.carried m' (h.stored.sent m' hm')).le_latest

theorem initial_sound (routes : R) (users : U) : (initial routes users).Sound where
  ordered :=
    { routesLog := List.cons_ne_nil _ _
      usersLog := List.cons_ne_nil _ _
      nextSeq := Int.le_refl _
      clients := fun _ hs => by cases hs
      chain := fun _ ht => by cases ht
      building := fun _ hb => by cases hb
      carried := fun _ hm => by cases hm
      sorted := List.Pairwise.nil }
  wire _ hp := by cases hp
  owned _ hs := by cases hs
  stored :=
    { routesStore := rfl
      usersStore := rfl
      sent := fun _ hm => by cases hm
      base := fun _ hm => by cases hm
      fresh := fun _ => ⟨rfl, rfl⟩
      received := fun _ hm => by cases hm
      greatest := fun hne => absurd rfl hne
      increasing := List.Pairwise.nil
      applied := fun _ hs => by cases hs
      delivered := fun _ hm => by cases hm
      accepted := fun _ => rfl }

/-- A snapshot that can arrive on the connection carries nothing older than what is
stored, unless its number is lower. -/
theorem Sound.stored_le {x : Channel R U} (h : x.Sound) {s : ℕ} {m m' : Sent R U}
    (hsocket : x.socket = some s) (hm : (s, m) ∈ x.inFlight) (hstored : x.stored = some m')
    (hnew : x.engine.lastSeq < m.seq) : m'.commit ≤ m.commit := by
  obtain ⟨hprocess, hbase⟩ := (h.owned s hsocket).inFlight m hm
  by_cases hnil : x.received = []
  · rw [(h.stored.fresh hnil).2] at hstored
    exact (hbase m' hstored).trans (h.ordered.carried m (h.wire _ hm).2).since
  · obtain ⟨m₀, hm₀, hstored₀, hlast, -⟩ := h.stored.greatest hnil
    rw [hstored] at hstored₀
    obtain rfl := Option.some.inj hstored₀
    obtain ⟨hsent, hjoined⟩ := h.stored.received m' hm₀
    -- both come from the process that accepted the connection, so numbers compare
    refine h.ordered.commit_le hsent (h.wire _ hm).2 (hjoined.trans hprocess.symm) ?_
    omega

/-- A snapshot that is dropped is not ahead of what is stored. -/
theorem Sound.le_stored {x : Channel R U} (h : x.Sound) {s : ℕ} {m : Sent R U}
    (hsocket : x.socket = some s) (hm : (s, m) ∈ x.inFlight) (hold : m.seq ≤ x.engine.lastSeq) :
    ∃ m' ∈ x.received, x.stored = some m' ∧ m.commit ≤ m'.commit ∧ m.seq ≤ m'.seq := by
  obtain ⟨hprocess, -⟩ := (h.owned s hsocket).inFlight m hm
  have hsent := (h.wire _ hm).2
  have hpositive := (h.ordered.carried m hsent).seq
  by_cases hnil : x.received = []
  · -- sequence numbers begin at one
    have hzero := (h.stored.fresh hnil).1
    omega
  · obtain ⟨m', hm', hstored, hlast, -⟩ := h.stored.greatest hnil
    obtain ⟨hsent', hjoined⟩ := h.stored.received m' hm'
    rw [hlast] at hold
    exact ⟨m', hm', hstored,
      h.ordered.commit_le hsent hsent' (hprocess.trans hjoined.symm) hold, hold⟩

/-! ### Steps -/

/-- Sending keeps what the engine has stored. -/
theorem Stored.sends {x : Channel R U} (h : x.Stored) (cp : ControlPlane R U)
    (inFlight : List (ℕ × Sent R U)) (new : List (Sent R U)) :
    Stored { x with controlPlane := cp, inFlight := inFlight, sent := x.sent ++ new } where
  routesStore := h.routesStore
  usersStore := h.usersStore
  sent m hm := List.mem_append_left _ (h.sent m hm)
  base := h.base
  fresh := h.fresh
  received m hm := ⟨List.mem_append_left _ (h.received m hm).1, (h.received m hm).2⟩
  greatest := h.greatest
  increasing := h.increasing
  applied := h.applied
  delivered m hm := ⟨List.mem_append_left _ (h.delivered m hm).1, (h.delivered m hm).2⟩
  accepted := h.accepted

theorem controlPlane_sound {x : Channel R U} (h : x.Sound) {cp : ControlPlane R U}
    (hsteps : ControlPlane.Steps x.controlPlane cp) : Sound { x with controlPlane := cp } where
  ordered := hsteps.ordered h.ordered
  wire p hp := ⟨Nat.lt_of_lt_of_le (h.wire p hp).1 hsteps.grows.nextSocket, (h.wire p hp).2⟩
  owned s hs := (h.owned s hs).steps hsteps fun _ hm => h.base_le hm
  stored := by
    have hstored := h.stored.sends cp x.inFlight []
    rw [List.append_nil] at hstored
    exact hstored

theorem send_sound {x : Channel R U} (h : x.Sound) {cp : ControlPlane R U} {sockets : List ℕ}
    {m : Sent R U} (hsend : x.controlPlane.sendSnapshot = some (cp, sockets, m)) :
    Sound { x with
      controlPlane := cp
      inFlight := x.inFlight ++ sockets.map fun s => (s, m)
      sent := x.sent ++ [m] } where
  ordered := ControlPlane.send_ordered h.ordered hsend
  wire p hp := by
    obtain ⟨b, -, -, hb, -, -, -, -, -, -, -, -, rfl, rfl⟩ := ControlPlane.sendSnapshot_sent hsend
    rcases List.mem_append.mp hp with hold | hnew
    · exact ⟨(h.wire p hold).1, List.mem_append_left _ (h.wire p hold).2⟩
    · obtain ⟨s, hs, rfl⟩ := List.mem_map.mp hnew
      exact ⟨(h.ordered.building b hb).1.sockets s hs,
        List.mem_append_right _ (List.mem_singleton.mpr rfl)⟩
  owned s hs := (h.owned s hs).send hsend
  stored := h.stored.sends cp _ [m]

/-- The engine's connection is accepted: nothing was sent to its socket before. -/
theorem accept_sound {x : Channel R U} (h : x.Sound) (hnone : x.socket = none) :
    Sound { x with
      controlPlane := x.controlPlane.onConnection
      socket := some x.controlPlane.nextSocket
      joined := x.controlPlane.process } := by
  have hsteps := ControlPlane.onConnection_steps x.controlPlane
  refine
    { ordered := hsteps.ordered h.ordered
      wire := fun p hp => ⟨Nat.lt_of_lt_of_le (h.wire p hp).1 hsteps.grows.nextSocket, (h.wire p hp).2⟩
      owned := fun s hs => ?_
      stored := ?_ }
  · obtain rfl := Option.some.inj hs
    -- nothing was issued for, or sent to, the number the socket gets
    have hfresh : ∀ {n : ℕ}, n < x.controlPlane.nextSocket → n ≠ x.controlPlane.nextSocket :=
      fun hlt => Nat.ne_of_lt hlt
    refine ⟨Nat.lt_succ_self _, fun _ => rfl, fun task htask hs => ?_, fun b hb hs => ?_, fun m hm => ?_⟩
    · rcases List.mem_append.mp htask with hold | hnew
      · exact absurd rfl (hfresh ((h.ordered.chain task hold).2 _ hs))
      · refine ⟨rfl, fun m hm => ?_⟩
        rw [List.mem_singleton.mp hnew]
        exact h.base_le hm
    · exact absurd rfl (hfresh ((h.ordered.building b hb).1.sockets _ hs))
    · exact absurd rfl (hfresh (h.wire _ hm).1)
  · have hnil := h.stored.accepted hnone
    exact
      { routesStore := h.stored.routesStore
        usersStore := h.stored.usersStore
        sent := h.stored.sent
        base := h.stored.base
        fresh := h.stored.fresh
        received := fun m hm => by rw [hnil] at hm; cases hm
        greatest := fun hne => absurd hnil hne
        increasing := h.stored.increasing
        applied := h.stored.applied
        delivered := h.stored.delivered
        accepted := fun hnone => by cases hnone }

theorem runHandler_sound {W : WsCodec E R U} {x x' : Channel R U} {e : Handler E} (h : x.Sound)
    (hx : x.runHandler W e = some x') : x'.Sound := by
  rw [runHandler] at hx
  by_cases henvelope : isEnvelope W e = true
  · rw [if_pos henvelope] at hx
    cases hx
  rw [if_neg henvelope] at hx
  obtain ⟨engine, hengine, rfl⟩ := Option.map_eq_some_iff.mp hx
  have hview := Client.handle_view hengine (Bool.not_eq_true _ ▸ henvelope)
  by_cases hconnects : connects x.engine e = true
  · -- a new connection, on which nothing was received
    rw [if_pos hconnects] at hview ⊢
    have hlast : engine.lastSeq = 0 := congrArg Prod.fst hview
    have hroutes : engine.routesStore = x.engine.routesStore := congrArg (·.2.1) hview
    have husers : engine.usersStore = x.engine.usersStore := congrArg (·.2.2) hview
    refine ⟨h.ordered, h.wire, fun s hs => (by cases hs), ?_⟩
    exact
      { routesStore := hroutes.trans h.stored.routesStore
        usersStore := husers.trans h.stored.usersStore
        sent := h.stored.sent
        base := fun m hm => ⟨m, hm, le_refl _⟩
        fresh := fun _ => ⟨hlast, rfl⟩
        received := fun _ hm => by cases hm
        greatest := fun hne => absurd rfl hne
        increasing := List.Pairwise.nil
        applied := fun _ hs => by cases hs
        delivered := h.stored.delivered
        accepted := fun _ => rfl }
  · rw [if_neg hconnects] at hview ⊢
    have hlast : engine.lastSeq = x.engine.lastSeq := congrArg Prod.fst hview
    have hroutes : engine.routesStore = x.engine.routesStore := congrArg (·.2.1) hview
    have husers : engine.usersStore = x.engine.usersStore := congrArg (·.2.2) hview
    refine ⟨h.ordered, h.wire, h.owned, ?_⟩
    exact
      { routesStore := hroutes.trans h.stored.routesStore
        usersStore := husers.trans h.stored.usersStore
        sent := h.stored.sent
        base := h.stored.base
        fresh := hlast ▸ h.stored.fresh
        received := h.stored.received
        greatest := hlast ▸ h.stored.greatest
        increasing := h.stored.increasing
        applied := hlast ▸ h.stored.applied
        delivered := h.stored.delivered
        accepted := h.stored.accepted }

theorem onEnvelope_view (x : Client R U) (m : Sent R U) :
    (x.onEnvelope "snapshot" (some m.routes) (some m.users) (some m.seq)).view =
      if m.seq ≤ x.lastSeq then x.view else (m.seq, some m.routes, some m.users) := by
  rw [Client.onEnvelope]
  by_cases hold : m.seq ≤ x.lastSeq
  · rw [if_pos (by simpa using hold), if_pos hold]
  · rw [if_neg (by simpa using hold), if_neg hold]
    rfl

/-- A snapshot is applied, or is not ahead of what is stored. -/
theorem receive_stored {x : Channel R U} (h : x.Sound) {s : ℕ} {m : Sent R U}
    (hsocket : x.socket = some s) (hm : (s, m) ∈ x.inFlight) : (x.receive m).Stored := by
  obtain ⟨hprocess, -⟩ := (h.owned s hsocket).inFlight m hm
  have hsent := (h.wire _ hm).2
  have hview := onEnvelope_view x.engine m
  have hreceived : ∀ m' ∈ x.received ++ [m], m' ∈ x.sent ∧ m'.process = x.joined := by
    intro m' hm'
    rcases List.mem_append.mp hm' with hold | hnew
    · exact h.stored.received m' hold
    · rw [List.mem_singleton.mp hnew]
      exact ⟨hsent, hprocess⟩
  have hdelivered : ∀ {m₀ : Sent R U}, m.commit ≤ m₀.commit →
      (∀ m', x.stored = some m' → m'.commit ≤ m₀.commit) →
      ∀ m' ∈ x.delivered ++ [m], m' ∈ x.sent ∧ m'.commit ≤ m₀.commit := by
    intro m₀ hle hstored m' hm'
    rcases List.mem_append.mp hm' with hold | hnew
    · obtain ⟨hmem, m₁, hm₁, hle₁⟩ := h.stored.delivered m' hold
      exact ⟨hmem, hle₁.trans (hstored m₁ hm₁)⟩
    · rw [List.mem_singleton.mp hnew]
      exact ⟨hsent, hle⟩
  by_cases hold : m.seq ≤ x.engine.lastSeq
  · -- it is dropped
    rw [if_pos hold] at hview
    obtain ⟨m', hm', hstored, hle, hseq⟩ := h.le_stored hsocket hm hold
    obtain ⟨m₀, hm₀, hstored₀, hlast, hgreatest⟩ :=
      h.stored.greatest (List.ne_nil_of_mem hm')
    have hsame : x.receive m =
        { x with
          received := x.received ++ [m]
          delivered := x.delivered ++ [m]
          engine := x.engine.onEnvelope "snapshot" (some m.routes) (some m.users) (some m.seq) } := by
      rw [receive, if_pos hold, if_pos hold]
    rw [hsame]
    have hlast' : (x.engine.onEnvelope "snapshot" (some m.routes) (some m.users)
        (some m.seq)).lastSeq = x.engine.lastSeq := congrArg Prod.fst hview
    exact
      { routesStore := (congrArg (·.2.1) hview).trans h.stored.routesStore
        usersStore := (congrArg (·.2.2) hview).trans h.stored.usersStore
        sent := h.stored.sent
        base := h.stored.base
        fresh := fun hnil => absurd hnil (List.append_ne_nil_of_right_ne_nil _ (List.cons_ne_nil _ _))
        received := hreceived
        greatest := fun _ => by
          refine ⟨m₀, List.mem_append_left _ hm₀, hstored₀, hlast'.trans hlast, fun m'' hm'' => ?_⟩
          rcases List.mem_append.mp hm'' with hin | hnew
          · exact hgreatest m'' hin
          · rw [List.mem_singleton.mp hnew]
            exact Int.le_trans hold (Int.le_of_eq hlast)
        increasing := h.stored.increasing
        applied := fun seq hseq =>
          Int.le_trans (h.stored.applied seq hseq) (Int.le_of_eq hlast'.symm)
        delivered := fun m'' hm'' => by
          obtain ⟨hmem, hle'⟩ := hdelivered hle
            (fun m₁ hm₁ => by rw [hstored] at hm₁; rw [Option.some.inj hm₁]) m'' hm''
          exact ⟨hmem, m', hstored, hle'⟩
        accepted := fun hnone => by rw [hsocket] at hnone; cases hnone }
  · -- it is applied
    rw [if_neg hold] at hview
    have hsame : x.receive m =
        { x with
          received := x.received ++ [m]
          delivered := x.delivered ++ [m]
          applied := x.applied ++ [m.seq]
          stored := some m
          engine := x.engine.onEnvelope "snapshot" (some m.routes) (some m.users) (some m.seq) } := by
      rw [receive, if_neg hold, if_neg hold]
    rw [hsame]
    have hlast' : (x.engine.onEnvelope "snapshot" (some m.routes) (some m.users)
        (some m.seq)).lastSeq = m.seq := congrArg Prod.fst hview
    have hahead : ∀ m', x.stored = some m' → m'.commit ≤ m.commit := fun m' hm' =>
      h.stored_le hsocket hm hm' (Int.not_le.mp hold)
    exact
      { routesStore := congrArg (·.2.1) hview
        usersStore := congrArg (·.2.2) hview
        sent := fun m' hm' => Option.some.inj hm' ▸ hsent
        base := fun m' hm' => by
          obtain ⟨m₁, hm₁, hle⟩ := h.stored.base m' hm'
          exact ⟨m, rfl, hle.trans (hahead m₁ hm₁)⟩
        fresh := fun hnil => absurd hnil (List.append_ne_nil_of_right_ne_nil _ (List.cons_ne_nil _ _))
        received := hreceived
        greatest := fun _ => by
          refine ⟨m, List.mem_append_right _ (List.mem_singleton.mpr rfl), rfl, hlast', fun m' hm' => ?_⟩
          rcases List.mem_append.mp hm' with hin | hnew
          · obtain ⟨m₀, -, -, hlast, hgreatest⟩ := h.stored.greatest (List.ne_nil_of_mem hin)
            have hle := hgreatest m' hin
            omega
          · exact Int.le_of_eq (congrArg Sent.seq (List.mem_singleton.mp hnew))
        increasing := by
          refine List.pairwise_append.mpr
            ⟨h.stored.increasing, List.pairwise_singleton _ _, fun a ha b hb => ?_⟩
          rw [List.mem_singleton.mp hb]
          have hle := h.stored.applied a ha
          omega
        applied := fun seq hseq => by
          rw [hlast']
          rcases List.mem_append.mp hseq with hin | hnew
          · have hle := h.stored.applied seq hin
            omega
          · exact Int.le_of_eq (List.mem_singleton.mp hnew)
        delivered := fun m' hm' => by
          obtain ⟨hmem, hle⟩ := hdelivered (le_refl _) hahead m' hm'
          exact ⟨hmem, m, rfl, hle⟩
        accepted := fun hnone => by rw [hsocket] at hnone; cases hnone }

theorem step_sound {W : WsCodec E R U} {x x' : Channel R U} {e : ChannelEvent E R U} (h : x.Sound)
    (hx : x.step W e = some x') : x'.Sound := by
  cases e with
  | controlPlane e =>
    obtain ⟨cp, hcp, rfl⟩ := Option.map_eq_some_iff.mp hx
    exact controlPlane_sound h (ControlPlane.step_steps hcp)
  | accept =>
    rw [step] at hx
    split_ifs at hx with hcond
    cases hx
    exact accept_sound h hcond.2
  | send =>
    obtain ⟨⟨cp, sockets, m⟩, hsend, rfl⟩ := Option.map_eq_some_iff.mp hx
    exact send_sound h hsend
  | engine e => exact runHandler_sound h hx
  | deliver k =>
    rw [step] at hx
    split at hx
    · cases hx
    · rename_i s m hm
      split_ifs at hx with hcond
      cases hx
      have hmem : (s, m) ∈ x.inFlight := List.mem_of_getElem? hm
      have hstored := receive_stored h hcond.2 hmem
      refine ⟨h.ordered, fun p hp => h.wire p (List.mem_of_mem_eraseIdx hp), fun s' hs' => ?_, ?_⟩
      · have howned := h.owned s' hs'
        exact ⟨howned.socket, howned.clients, howned.chain, howned.building,
          fun m' hm' => howned.inFlight m' (List.mem_of_mem_eraseIdx hm')⟩
      · exact
          { routesStore := hstored.routesStore
            usersStore := hstored.usersStore
            sent := hstored.sent
            base := hstored.base
            fresh := hstored.fresh
            received := hstored.received
            greatest := hstored.greatest
            increasing := hstored.increasing
            applied := hstored.applied
            delivered := hstored.delivered
            accepted := hstored.accepted }

theorem run_sound {W : WsCodec E R U} {x x' : Channel R U} {es : List (ChannelEvent E R U)}
    (h : x.Sound) (hrun : Runs.run (step W) x es = some x') : x'.Sound :=
  Runs.run_invariant (step W) (P := Sound) step_sound h hrun

/-- Once a message that was issued after the last commit is delivered, the stores are
the tables. -/
theorem Sound.stores_eq {x : Channel R U} (h : x.Sound) {m : Sent R U} (hm : m ∈ x.delivered)
    (hsince : m.since = x.controlPlane.latest) :
    x.engine.routesStore = x.controlPlane.routesLog.getLast? ∧
      x.engine.usersStore = x.controlPlane.usersLog.getLast? := by
  obtain ⟨hsent, m', hstored, hle⟩ := h.stored.delivered m hm
  have hcarries := h.ordered.carried m' (h.stored.sent m' hstored)
  -- nothing stored is ahead of the last commit, and this is not behind it
  have hcommit : m'.commit = x.controlPlane.latest := by
    refine le_antisymm hcarries.le_latest ?_
    rw [← hsince]
    exact (h.ordered.carried m hsent).since.trans hle
  have hroutes := hcarries.routes
  have husers := hcarries.users
  rw [hcommit, ControlPlane.latest] at hroutes husers
  rw [h.stored.routesStore, h.stored.usersStore, hstored, List.getLast?_eq_getElem?,
    List.getLast?_eq_getElem?, hroutes, husers]
  exact ⟨rfl, rfl⟩

/-- **Snapshots do not go back.**  In every run of a control plane and an engine, with
commits, broadcasts, connects and deliveries in any order: the sequence numbers that
are applied on a connection increase, and the stores hold the snapshot with the
greatest number received on it; messages carry committed states, and of two messages
of one process the one with the higher number carries none that is older; and once a
message that was issued after the last commit has been delivered, the stores are the
tables. -/
theorem snapshots_current {W : WsCodec E R U} {routes : R} {users : U} {x : Channel R U}
    {es : List (ChannelEvent E R U)}
    (hrun : Runs.run (step W) (initial routes users) es = some x) :
    x.applied.Pairwise (· < ·) ∧
      (x.received ≠ [] → ∃ m ∈ x.received, (∀ m' ∈ x.received, m'.seq ≤ m.seq) ∧
        x.engine.routesStore = some m.routes ∧ x.engine.usersStore = some m.users) ∧
      (∀ m ∈ x.sent, x.controlPlane.routesLog[m.commit.1]? = some m.routes ∧
        x.controlPlane.usersLog[m.commit.2]? = some m.users) ∧
      (∀ a ∈ x.sent, ∀ b ∈ x.sent, a.process = b.process → a.seq < b.seq → a.commit ≤ b.commit) ∧
      (∀ m ∈ x.delivered, m.since = x.controlPlane.latest →
        x.engine.routesStore = x.controlPlane.routesLog.getLast? ∧
          x.engine.usersStore = x.controlPlane.usersLog.getLast?) := by
  have h := run_sound (initial_sound routes users) hrun
  refine ⟨h.stored.increasing, fun hne => ?_, fun m hm => ?_, fun a ha b hb hprocess hseq => ?_,
    fun m hm hsince => h.stores_eq hm hsince⟩
  · obtain ⟨m, hm, hstored, -, hgreatest⟩ := h.stored.greatest hne
    refine ⟨m, hm, hgreatest, ?_, ?_⟩
    · rw [h.stored.routesStore, hstored]
      rfl
    · rw [h.stored.usersStore, hstored]
      rfl
  · exact ⟨(h.ordered.carried m hm).routes, (h.ordered.carried m hm).users⟩
  · exact h.ordered.commit_le ha hb hprocess (Int.le_of_lt hseq)

/-! ### Two snapshots, out of order -/

/-- The JSON layer on acknowledgements. -/
def ackCodec : WsCodec String ℕ ℕ where
  serializeEnvelope type := some ("\x7b\"type\":\"" ++ type ++ "\"\x7d")
  parseIncomingMessage raw :=
    if raw = "\x7b\"type\":\"ack\",\"success\":true\x7d" then some (.ack true) else none

/-- The engine connects.  Two commits follow each other, the second while the reads of
the first broadcast are running; the two snapshots arrive in the wrong order. -/
def reordered : List (ChannelEvent String ℕ ℕ) :=
  [.engine .startTask, .accept, .engine (.opened true),
    .controlPlane .startTask, .controlPlane (.readRoutes 0), .controlPlane (.readUsers 0), .send,
    .deliver 0,
    .controlPlane (.commitRoutes 7), .controlPlane .broadcast, .controlPlane .startTask,
    .controlPlane (.readUsers 0), .controlPlane (.commitUsers 5), .controlPlane .broadcast,
    .controlPlane (.readRoutes 1), .send,
    .controlPlane .startTask, .controlPlane (.readRoutes 1), .controlPlane (.readUsers 1), .send,
    .deliver 1, .deliver 0]

theorem snapshots_current_reordered :
    ∃ x, Runs.run (step ackCodec) (initial 0 0) reordered = some x ∧
      x.engine.routesStore = x.controlPlane.routesLog.getLast? ∧
      x.engine.usersStore = x.controlPlane.usersLog.getLast? := by
  have hrun : (Runs.run (step ackCodec) (initial 0 0) reordered).map
      (fun x => x.delivered.any fun m => m.since = x.controlPlane.latest) = some true := by
    decide +kernel
  obtain ⟨x, hx, hany⟩ := Option.map_eq_some_iff.mp hrun
  obtain ⟨m, hm, hsince⟩ := List.any_eq_true.mp hany
  exact ⟨x, hx, (snapshots_current hx).2.2.2.2 m hm (of_decide_eq_true hsince)⟩

end Channel

end SbcEngine
