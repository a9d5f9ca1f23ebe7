/-
From the API to the engine.

Requests change the tables of the control plane, snapshots of them go to the engine, and
the engine registers phones and routes calls by the snapshot it has.

* `System`, `System.step` — requests, statements, messages and REGISTERs, in any order;
* `Tracks` — the channel's logs are those of the tables;
* `stores_follow_api` — the engine has the tables of some moment, moments do not go back,
  and a snapshot that was issued after the last commit brings the present;
* `bindings_authenticated` — who a binding was registered by;
* `calls_follow_api` — where a call goes.

Design notes: when a request sends its broadcast is left open, as is what happens in
between.  A REGISTER sees one snapshot.  Without a snapshot the engine's stores are
empty.
-/
import SbcEngine.BindingRefinement
import SbcEngine.CalleeAor
import SbcEngine.EngineChannel
import SbcEngine.Moments
import SbcEngine.RoutePlan
import SbcEngine.SipUsers

namespace SbcEngine

open Runs
open RouteDb (SipRouteSnapshot)

namespace Provisioning

/-! ### The system -/

/-- What the system is wired up with. -/
structure Wiring (E : Type) where
  codec : WsCodec E SipRouteSnapshot UsersStore
  md5 : String → String
  stack : Registrar.Stack
  config : Registrar.Config
  sink : Bool
  /-- What the hash map and the sort of the bindings do with ties. -/
  arrangement : BindingStore.Arrangement

/-- The tables, the channel to the engine, and the engine's bindings. -/
structure System where
  routes : RouteDb
  users : UserApi
  channel : Channel SipRouteSnapshot UsersStore
  bindings : BindingStore

inductive Event (E : Type) where
  | routes (a : RouteDb.Attempt)
  | users (e : UserStatement)
  | channel (e : ChannelEvent E SipRouteSnapshot UsersStore)
  | register (clock : Registrar.Clock) (req : Registrar.Request)
  | sweep (now : ℤ)

/-- A default-constructed snapshot. -/
def noRoutes : SipRouteSnapshot := ⟨"", 0, []⟩

def snapshotOf (d : RouteDb) : SipRouteSnapshot := d.getRouteSnapshot.toOption.getD noRoutes

/-- The channel's event is a commit, which only a request can bring. -/
def isCommit {E : Type} : ChannelEvent E SipRouteSnapshot UsersStore → Bool
  | .controlPlane (.commitRoutes _) => true
  | .controlPlane (.commitUsers _) => true
  | _ => false

namespace System

variable {E : Type} (S : Wiring E)

def start (routes : RouteDb) (users : UserDb) : System where
  routes := routes
  users := .start users
  channel := .initial (snapshotOf routes) (getUsersSnapshot users)
  bindings := .empty S.arrangement

/-- The stores of the engine. -/
def routesStore (s : System) : RoutesStore := ⟨s.channel.engine.routesStore.getD noRoutes⟩

def usersStore (s : System) : UsersStore := s.channel.engine.usersStore.getD ⟨[]⟩

def registrar (s : System) : Registrar.RegistrarActions where
  stack := S.stack
  users := s.usersStore
  config := S.config
  sink := S.sink

/-- A request that succeeds commits the routes. -/
def serveRoutes (a : RouteDb.Attempt) (s : System) : Option System :=
  let routes := s.routes.serve a
  if s.routes.Succeeds a then
    (s.channel.step S.codec (.controlPlane (.commitRoutes (snapshotOf routes)))).map fun channel =>
      { s with routes := routes, channel := channel }
  else some { s with routes := routes }

/-- A statement that changes a row commits the users. -/
def executeUsers (e : UserStatement) (s : System) : Option System :=
  (s.users.step S.md5 e).bind fun users =>
    if users.db.rows = s.users.db.rows then some { s with users := users }
    else
      (s.channel.step S.codec (.controlPlane (.commitUsers (getUsersSnapshot users.db)))).map
        fun channel => { s with users := users, channel := channel }

def step (s : System) : Event E → Option System
  | .routes a => s.serveRoutes S a
  | .users e => s.executeUsers S e
  | .channel e =>
    if isCommit e then none
    else (s.channel.step S.codec e).map fun channel => { s with channel := channel }
  | .register clock req =>
    some { s with bindings := (Registrar.handle (s.registrar S) clock req s.bindings).store }
  | .sweep now => some { s with bindings := s.bindings.sweep now }

end System

/-! ### The channel, step by step -/

section Channel

variable {E : Type} {W : WsCodec E SipRouteSnapshot UsersStore}
  {x x' : Channel SipRouteSnapshot UsersStore}

/-- The logs of the channel grow by one commit at a time, and what the engine has stored
does not go back. -/
structure Advances (x x' : Channel SipRouteSnapshot UsersStore) : Prop where
  routesLog : x.controlPlane.routesLog <+: x'.controlPlane.routesLog
  usersLog : x.controlPlane.usersLog <+: x'.controlPlane.usersLog
  routes_le : x'.controlPlane.routesLog.length ≤ x.controlPlane.routesLog.length + 1
  users_le : x'.controlPlane.usersLog.length ≤ x.controlPlane.usersLog.length + 1
  stored : ∀ m, x.stored = some m → ∃ m', x'.stored = some m' ∧ m.commit ≤ m'.commit

theorem Advances.of_eq (hroutes : x'.controlPlane.routesLog = x.controlPlane.routesLog)
    (husers : x'.controlPlane.usersLog = x.controlPlane.usersLog)
    (hstored : ∀ m, x.stored = some m → ∃ m', x'.stored = some m' ∧ m.commit ≤ m'.commit) :
    Advances x x' where
  routesLog := by rw [hroutes]
  usersLog := by rw [husers]
  routes_le := by rw [hroutes]; exact Nat.le_succ _
  users_le := by rw [husers]; exact Nat.le_succ _
  stored := hstored

/-- Without a commit the logs stay. -/
theorem step_logs {e : ChannelEvent E SipRouteSnapshot UsersStore} (he : isCommit e = false)
    (h : x.step W e = some x') :
    x'.controlPlane.routesLog = x.controlPlane.routesLog ∧
      x'.controlPlane.usersLog = x.controlPlane.usersLog := by
  cases e with
  | controlPlane e =>
    obtain ⟨cp, hcp, rfl⟩ := Option.map_eq_some_iff.mp h
    cases e with
    | commitRoutes routes => cases he
    | commitUsers users => cases he
    | broadcast =>
      cases hcp
      exact ⟨rfl, rfl⟩
    | connection =>
      cases hcp
      exact ⟨rfl, rfl⟩
    | close socket =>
      cases hcp
      exact ⟨rfl, rfl⟩
    | startTask =>
      rw [ControlPlane.step, ControlPlane.startTask] at hcp
      split at hcp
      · split_ifs at hcp <;> cases hcp <;> exact ⟨rfl, rfl⟩
      · cases hcp
    | readRoutes commit =>
      rw [ControlPlane.step, ControlPlane.readRoutes] at hcp
      split at hcp
      · cases hcp
      · split_ifs at hcp
        cases hcp
        exact ⟨rfl, rfl⟩
    | readUsers commit =>
      rw [ControlPlane.step, ControlPlane.readUsers] at hcp
      split at hcp
      · cases hcp
      · split_ifs at hcp
        cases hcp
        exact ⟨rfl, rfl⟩
    | buildFails =>
      obtain ⟨_, -, rfl⟩ := Option.map_eq_some_iff.mp hcp
      exact ⟨rfl, rfl⟩
    | restart =>
      cases hcp
      exact ⟨rfl, rfl⟩
  | accept =>
    rw [Channel.step] at h
    split_ifs at h
    cases h
    exact ⟨rfl, rfl⟩
  | send =>
    obtain ⟨⟨cp, sockets, m⟩, hsend, rfl⟩ := Option.map_eq_some_iff.mp h
    obtain ⟨-, -, -, -, -, -, -, -, -, -, -, -, -, rfl⟩ := ControlPlane.sendSnapshot_sent hsend
    exact ⟨rfl, rfl⟩
  | engine e =>
    change x.runHandler W e = some x' at h
    rw [Channel.runHandler] at h
    split_ifs at h
    · obtain ⟨engine, -, rfl⟩ := Option.map_eq_some_iff.mp h
      exact ⟨rfl, rfl⟩
    · obtain ⟨engine, -, rfl⟩ := Option.map_eq_some_iff.mp h
      exact ⟨rfl, rfl⟩
  | deliver k =>
    rw [Channel.step] at h
    split at h
    · cases h
    · split_ifs at h
      cases h
      exact ⟨rfl, rfl⟩

/-- What is delivered is stored, unless something newer is. -/
theorem step_stored {e : ChannelEvent E SipRouteSnapshot UsersStore} (hx : x.Sound)
    (h : x.step W e = some x') {m : Sent SipRouteSnapshot UsersStore} (hm : x.stored = some m) :
    ∃ m', x'.stored = some m' ∧ m.commit ≤ m'.commit := by
  cases e with
  | controlPlane e =>
    obtain ⟨cp, -, rfl⟩ := Option.map_eq_some_iff.mp h
    exact ⟨m, hm, le_refl _⟩
  | accept =>
    rw [Channel.step] at h
    split_ifs at h
    cases h
    exact ⟨m, hm, le_refl _⟩
  | send =>
    obtain ⟨_, -, rfl⟩ := Option.map_eq_some_iff.mp h
    exact ⟨m, hm, le_refl _⟩
  | engine e =>
    change x.runHandler W e = some x' at h
    rw [Channel.runHandler] at h
    split_ifs at h
    · obtain ⟨engine, -, rfl⟩ := Option.map_eq_some_iff.mp h
      exact ⟨m, hm, le_refl _⟩
    · obtain ⟨engine, -, rfl⟩ := Option.map_eq_some_iff.mp h
      exact ⟨m, hm, le_refl _⟩
  | deliver k =>
    rw [Channel.step] at h
    split at h
    · cases h
    rename_i s sent hsent
    split_ifs at h with hcond
    cases h
    by_cases hold : sent.seq ≤ x.engine.lastSeq
    · refine ⟨m, ?_, le_refl _⟩
      change (if sent.seq ≤ x.engine.lastSeq then x.stored else some sent) = some m
      rw [if_pos hold]
      exact hm
    · refine ⟨sent, ?_, hx.stored_le hcond.2 (List.mem_of_getElem? hsent) hm (Int.not_le.mp hold)⟩
      change (if sent.seq ≤ x.engine.lastSeq then x.stored else some sent) = some sent
      rw [if_neg hold]

theorem step_advances {e : ChannelEvent E SipRouteSnapshot UsersStore} (hx : x.Sound)
    (he : isCommit e = false) (h : x.step W e = some x') : Advances x x' :=
  .of_eq (step_logs he h).1 (step_logs he h).2 fun _ hm => step_stored hx h hm

end Channel

/-! ### The tables and the logs -/

section Tracks

variable {E : Type} {S : Wiring E} {s s' : System}

theorem snapshotOf_ok {d : RouteDb} (htable : d.version.isSome) :
    d.getRouteSnapshot = .ok (snapshotOf d) := by
  obtain ⟨v, hv⟩ := Option.isSome_iff_exists.mp htable
  rw [snapshotOf, RouteDb.getRouteSnapshot, hv]
  rfl

/-- The channel's logs are those of the tables. -/
structure Tracks (s : System) : Prop where
  channel : s.channel.Sound
  valid : s.routes.Valid
  table : s.routes.version.isSome
  users : s.users.Sound
  routesLog : s.channel.controlPlane.routesLog.getLast? = some (snapshotOf s.routes)
  usersLog : s.channel.controlPlane.usersLog.getLast? = some (getUsersSnapshot s.users.db)

theorem start_tracks {d : RouteDb} {u : UserDb} (hd : d.Valid) (htable : d.version.isSome)
    (hu : u.Valid) : Tracks (.start S d u) where
  channel := Channel.initial_sound _ _
  valid := hd
  table := htable
  users := ⟨hu, fun _ h => by cases h⟩
  routesLog := rfl
  usersLog := rfl

theorem serveRoutes_kept {a : RouteDb.Attempt} (h : Tracks s) (hstep : s.serveRoutes S a = some s') :
    Tracks s' ∧ Advances s.channel s'.channel := by
  obtain ⟨hlawful, hvalid⟩ := RouteDb.serve_lawful h.valid a
  rw [System.serveRoutes] at hstep
  split_ifs at hstep with hok
  · obtain ⟨channel, hchannel, rfl⟩ := Option.map_eq_some_iff.mp hstep
    have hsound := Channel.step_sound h.channel hchannel
    cases hchannel
    obtain ⟨v, -, hv⟩ := hlawful.counted hok
    refine ⟨⟨hsound, hvalid, by rw [hv]; rfl, h.users, List.getLast?_concat, h.usersLog⟩,
      List.prefix_append _ _, List.prefix_refl _, by simp, Nat.le_succ _, fun m hm => ⟨m, hm, le_refl _⟩⟩
  · cases hstep
    obtain ⟨htables, hrules⟩ := hlawful.failed hok
    have hsame : snapshotOf (s.routes.serve a) = snapshotOf s.routes := by
      rw [snapshotOf, snapshotOf, RouteDb.getRouteSnapshot, RouteDb.getRouteSnapshot, RouteDb.version,
        RouteDb.version, htables, hrules]
    refine ⟨⟨h.channel, hvalid, ?_, h.users, ?_, h.usersLog⟩, .of_eq rfl rfl fun m hm => ⟨m, hm, le_refl _⟩⟩
    · rw [RouteDb.version, htables]
      exact h.table
    · rw [hsame]
      exact h.routesLog

theorem executeUsers_kept {e : UserStatement} (h : Tracks s) (hstep : s.executeUsers S e = some s') :
    Tracks s' ∧ Advances s.channel s'.channel := by
  obtain ⟨users, husers, hrest⟩ := Option.bind_eq_some_iff.mp hstep
  have hsound := UserApi.step_sound h.users husers
  split_ifs at hrest with hrows
  · cases hrest
    refine ⟨⟨h.channel, h.valid, h.table, hsound, h.routesLog, ?_⟩,
      .of_eq rfl rfl fun m hm => ⟨m, hm, le_refl _⟩⟩
    rw [getUsersSnapshot, hrows]
    exact h.usersLog
  · obtain ⟨channel, hchannel, rfl⟩ := Option.map_eq_some_iff.mp hrest
    have hkept := Channel.step_sound h.channel hchannel
    cases hchannel
    exact ⟨⟨hkept, h.valid, h.table, hsound, h.routesLog, List.getLast?_concat⟩,
      List.prefix_refl _, List.prefix_append _ _, Nat.le_succ _, by simp, fun m hm => ⟨m, hm, le_refl _⟩⟩

theorem step_kept {e : Event E} (h : Tracks s) (hstep : s.step S e = some s') :
    Tracks s' ∧ Advances s.channel s'.channel := by
  have hstay : Advances s.channel s.channel := .of_eq rfl rfl fun m hm => ⟨m, hm, le_refl _⟩
  cases e with
  | routes a => exact serveRoutes_kept h hstep
  | users e => exact executeUsers_kept h hstep
  | channel e =>
    rw [System.step] at hstep
    split_ifs at hstep with he
    obtain ⟨channel, hchannel, rfl⟩ := Option.map_eq_some_iff.mp hstep
    have hadvances := step_advances h.channel (Bool.eq_false_iff.mpr he) hchannel
    obtain ⟨hroutes, husers⟩ := step_logs (Bool.eq_false_iff.mpr he) hchannel
    refine ⟨⟨Channel.step_sound h.channel hchannel, h.valid, h.table, h.users, ?_, ?_⟩, hadvances⟩
    · rw [hroutes]
      exact h.routesLog
    · rw [husers]
      exact h.usersLog
  | register clock req =>
    cases hstep
    exact ⟨⟨h.channel, h.valid, h.table, h.users, h.routesLog, h.usersLog⟩, hstay⟩
  | sweep now =>
    cases hstep
    exact ⟨⟨h.channel, h.valid, h.table, h.users, h.routesLog, h.usersLog⟩, hstay⟩

theorem run_tracks {es : List (Event E)} (h : Tracks s) (hrun : run (System.step S) s es = some s') :
    Tracks s' :=
  run_invariant (System.step S) (fun h hstep => (step_kept h hstep).1) h hrun

end Tracks

/-! ### What the engine has -/

section Stores

variable {E : Type} {S : Wiring E} {x x' : Channel SipRouteSnapshot UsersStore}

/-- The commit that is stored, of the routes or of the users. -/
def seen (part : Commit → ℕ) (x : Channel SipRouteSnapshot UsersStore) : ℕ :=
  (x.stored.map fun m => part m.commit).getD 0

theorem Advances.seen_le {part : Commit → ℕ} (hpart : Monotone part) (h : Advances x x') :
    seen part x ≤ seen part x' := by
  cases hx : x.stored with
  | none =>
    rw [seen, hx]
    exact Nat.zero_le _
  | some m =>
    obtain ⟨m', hm', hle⟩ := h.stored m hx
    rw [seen, seen, hx, hm']
    exact hpart hle

/-- What is stored is in the logs. -/
theorem seen_lt (hx : x.Sound) : seen Prod.fst x < x.controlPlane.routesLog.length ∧
    seen Prod.snd x < x.controlPlane.usersLog.length := by
  rw [seen, seen]
  cases hm : x.stored with
  | none =>
    exact ⟨List.length_pos_of_ne_nil hx.ordered.routesLog, List.length_pos_of_ne_nil hx.ordered.usersLog⟩
  | some m =>
    have hcarries := hx.ordered.carried m (hx.stored.sent m hm)
    exact ⟨(List.getElem?_eq_some_iff.mp hcarries.routes).1,
      (List.getElem?_eq_some_iff.mp hcarries.users).1⟩

theorem stores_seen (hx : x.Sound) (hstored : x.stored ≠ none) :
    x.engine.routesStore = x.controlPlane.routesLog[seen Prod.fst x]? ∧
      x.engine.usersStore = x.controlPlane.usersLog[seen Prod.snd x]? := by
  obtain ⟨m, hm⟩ := Option.ne_none_iff_exists'.mp hstored
  have hcarries := hx.ordered.carried m (hx.stored.sent m hm)
  rw [hx.stored.routesStore, hx.stored.usersStore, seen, seen, hm]
  exact ⟨hcarries.routes.symm, hcarries.users.symm⟩

/-- The engine has the routes of one state, and the users of another. -/
structure Shown (t a b : System) : Prop where
  routes : t.routesStore.Shows a.routes.plan
  users : t.usersStore = getUsersSnapshot b.users.db

theorem shown_of_logs {t a b : System} (ha : Tracks a) (hb : Tracks b)
    (hroutes : t.channel.engine.routesStore = a.channel.controlPlane.routesLog.getLast?)
    (husers : t.channel.engine.usersStore = b.channel.controlPlane.usersLog.getLast?) : Shown t a b := by
  rw [ha.routesLog] at hroutes
  rw [hb.usersLog] at husers
  refine ⟨RoutesStore.shows_snapshot ha.valid ?_, ?_⟩
  · rw [System.routesStore, hroutes, snapshotOf_ok ha.table]
    rfl
  · rw [System.usersStore, husers]
    rfl

/-- No snapshot has come yet. -/
def System.Unserved (t : System) : Prop :=
  t.channel.engine.routesStore = none ∧ t.channel.engine.usersStore = none

/-- The states of a run, and the moments of what the engine has. -/
structure History (S : Wiring E) (d : RouteDb) (u : UserDb) (es : List (Event E)) (states : ℕ → System)
    (routes users : ℕ → ℕ) : Prop where
  start : states 0 = .start S d u
  run : ∀ k, Runs.run (System.step S) (.start S d u) (es.take k) = some (states k)
  steps : ∀ k, states (k + 1) = states k ∨
    ∃ e, es[k]? = some e ∧ (states k).step S e = some (states (k + 1))
  tracks : ∀ k, Tracks (states k)
  routes_mono : Monotone routes
  users_mono : Monotone users
  routes_le : ∀ k, routes k ≤ k
  users_le : ∀ k, users k ≤ k
  shown : ∀ k, (states k).Unserved ∨ Shown (states k) (states (routes k)) (states (users k))

theorem exists_history {d : RouteDb} {u : UserDb} {es : List (Event E)} {s : System} (hd : d.Valid)
    (htable : d.version.isSome) (hu : u.Valid)
    (hrun : run (System.step S) (.start S d u) es = some s) :
    ∃ states routes users, History S d u es states routes users := by
  obtain ⟨states, hstart, hstates, hsteps⟩ := exists_states (System.step S) hrun
  have htracks : ∀ k, Tracks (states k) := fun k => run_tracks (start_tracks hd htable hu) (hstates k)
  have hadvances : ∀ k, Advances (states k).channel (states (k + 1)).channel := by
    intro k
    rcases hsteps k with hsame | ⟨e, -, he⟩
    · rw [hsame]
      exact .of_eq rfl rfl fun m hm => ⟨m, hm, le_refl _⟩
    · exact (step_kept (htracks k) he).2
  obtain ⟨routes, hroutesMono, hroutes⟩ := exists_moments
    (fun k => (states k).channel.controlPlane.routesLog)
    (fun k => seen Prod.fst (states k).channel) (by rw [hstart]; rfl)
    (fun k => (hadvances k).routesLog) (fun k => (hadvances k).routes_le)
    (fun k => (seen_lt (htracks k).channel).1)
    (monotone_nat_of_le_succ fun k => (hadvances k).seen_le monotone_fst)
  obtain ⟨users, husersMono, husers⟩ := exists_moments
    (fun k => (states k).channel.controlPlane.usersLog)
    (fun k => seen Prod.snd (states k).channel) (by rw [hstart]; rfl)
    (fun k => (hadvances k).usersLog) (fun k => (hadvances k).users_le)
    (fun k => (seen_lt (htracks k).channel).2)
    (monotone_nat_of_le_succ fun k => (hadvances k).seen_le monotone_snd)
  refine ⟨states, routes, users, hstart, hstates, hsteps, htracks, hroutesMono, husersMono,
    fun k => (hroutes k).1, fun k => (husers k).1, fun k => ?_⟩
  have hsound := (htracks k).channel
  by_cases hstored : (states k).channel.stored = none
  · refine .inl ⟨?_, ?_⟩
    · rw [hsound.stored.routesStore, hstored]
      rfl
    · rw [hsound.stored.usersStore, hstored]
      rfl
  · obtain ⟨hroutesStore, husersStore⟩ := stores_seen hsound hstored
    exact .inr (shown_of_logs (htracks _) (htracks _) (hroutesStore.trans (hroutes k).2.symm)
      (husersStore.trans (husers k).2.symm))

/-- **The engine follows the API.**  In every run of requests, statements, REGISTERs,
messages in any order and restarts of the control plane, the engine has the routes of one
moment of the run and the users of one, or nothing so far; these moments are not in the
future and do not go back; and once a snapshot has come that was issued after the last
commit, they are the present. -/
theorem stores_follow_api {d : RouteDb} {u : UserDb} {es : List (Event E)} {s : System} (hd : d.Valid)
    (htable : d.version.isSome) (hu : u.Valid)
    (hrun : run (System.step S) (.start S d u) es = some s) :
    ∃ states : ℕ → System, (∀ k, run (System.step S) (.start S d u) (es.take k) = some (states k)) ∧
      ∃ mr mu : ℕ → ℕ, Monotone mr ∧ Monotone mu ∧ ∀ k, mr k ≤ k ∧ mu k ≤ k ∧
        ((states k).Unserved ∨ Shown (states k) (states (mr k)) (states (mu k))) ∧
        ∀ m ∈ (states k).channel.delivered, m.since = (states k).channel.controlPlane.latest →
          Shown (states k) (states k) (states k) := by
  obtain ⟨states, mr, mu, h⟩ := exists_history hd htable hu hrun
  refine ⟨states, h.run, mr, mu, h.routes_mono, h.users_mono, fun k =>
    ⟨h.routes_le k, h.users_le k, h.shown k, fun m hm hsince => ?_⟩⟩
  obtain ⟨hroutes, husers⟩ := (h.tracks k).channel.stores_eq hm hsince
  exact shown_of_logs (h.tracks k) (h.tracks k) hroutes husers

end Stores

/-! ### Who registered a binding -/

section Registrations

variable {R : Registrar.RegistrarActions} {clock : Registrar.Clock} {req : Registrar.Request}
  {store : BindingStore} {aor uri : String} {b : Binding}

open Registrar in
/-- A binding that is on file after a request, and was not before, is one of its
contacts. -/
theorem handle_registered (h : (handle R clock req store).store.find aor uri = some b)
    (hnew : store.find aor uri ≠ some b) :
    aor = req.aor ∧ ∃ contact ∈ req.contacts, contact.uri = uri ∧ b = stamped R clock req store contact := by
  have hchange : (handle R clock req store).store.find aor uri ≠ store.find aor uri := by
    rw [h]
    exact Ne.symm hnew
  obtain ⟨-, -, -, haor⟩ := handle_find hchange
  refine ⟨haor, ?_⟩
  change aor = req.aor at haor
  subst haor
  have hhandled := handle_handled R clock req store
  generalize handle R clock req store = outcome at h hhandled
  cases hhandled with
  | refused => exact absurd h hnew
  | queried => exact absurd h hnew
  | cleared =>
    change (store.removeAll req.aor).find req.aor uri = some b at h
    rw [BindingStore.find_removeAll] at h
    cases h
  | registered _ _ _ happly =>
    have hfind := BindingStore.find_applyContacts (congrArg Prod.snd happly) uri
    rw [happly] at hfind
    rw [hfind] at h
    split at h
    · exact absurd h hnew
    · rename_i b' hlast
      split_ifs at h
      cases h
      have hmem := List.mem_of_getLast? hlast
      rw [decided_eq, List.map_map] at hmem
      obtain ⟨hcontact, huri⟩ := List.mem_filter.mp hmem
      obtain ⟨contact, hin, rfl⟩ := List.mem_map.mp hcontact
      exact ⟨contact, hin, of_decide_eq_true huri, rfl⟩

variable {E : Type} {S : Wiring E} {dir : Directory} {t a s : System} {es : List (Event E)}
  {states : ℕ → System} {routes users : ℕ → ℕ} {d : RouteDb} {u : UserDb}

/-- The binding is a contact of a REGISTER that the engine handled in the state `t`, in
the name of the To user, and with a credential of the To host; by the users of the state
`a` this belongs to an enabled account, and its digest was checked against the hash of a
password that was set for that account. -/
structure Authenticated (S : Wiring E) (dir : Directory) (t a : System) (clock : Registrar.Clock)
    (req : Registrar.Request) (aor uri : String) (b : Binding) : Prop where
  aor : aor = req.aor
  contact : ∃ contact ∈ req.contacts, contact.uri = uri ∧
    b = Registrar.stamped (t.registrar S) clock req t.bindings contact
  named : Registrar.authenticatedUsername req = some req.toUser
  verified : ∃ cred ∈ req.authorizations, cred.realm = req.toHost ∧ ∃ row ∈ a.users.db.rows,
    row.username = cred.username ∧ row.realm = req.toHost ∧ row.enabled = true ∧
    (S.stack.checkDigest cred (some row.ha1)).1 = .success ∧ UserApi.IsHash S.md5 dir a.users row.id row

/-- A REGISTER of the run has brought the binding. -/
def Registered (S : Wiring E) (d : RouteDb) (u : UserDb) (dir : Directory) (es : List (Event E))
    (aor uri : String) (b : Binding) : Prop :=
  ∃ k clock req t, es[k]? = some (.register clock req) ∧
    run (System.step S) (.start S d u) (es.take k) = some t ∧
    ∃ j ≤ k, ∃ a, run (System.step S) (.start S d u) (es.take j) = some a ∧
      Authenticated S dir t a clock req aor uri b

/-- The digest layer accepts no credential without an account. -/
def ChecksAccounts (stack : Registrar.Stack) : Prop :=
  ∀ cred, (stack.checkDigest cred none).1 ≠ .success

/-- A credential that was verified is that of an account. -/
theorem verified_account (hstack : ChecksAccounts S.stack) {cred : Registrar.Authorization}
    (h : Registrar.verifiedCredential (t.registrar S) req = some cred) :
    cred ∈ req.authorizations ∧ cred.realm = req.toHost ∧
      ∃ user, t.usersStore.find cred.username req.toHost = some user ∧
        (S.stack.checkDigest cred (some user.ha1)).1 = .success := by
  rw [Registrar.verifiedCredential, Option.bind_eq_some_iff] at h
  obtain ⟨realm, hdomain, hcred⟩ := h
  obtain rfl := Registrar.localDomain_eq hdomain
  split_ifs at hcred with hverify
  have hmatch := List.find?_some (p := fun a : Registrar.Authorization => a.realm = req.toHost) hcred
  refine ⟨List.mem_of_find?_eq_some hcred, of_decide_eq_true hmatch, ?_⟩
  rw [Registrar.verify] at hverify
  split_ifs at hverify
  rw [Registrar.authSrvVerify, hcred] at hverify
  change (S.stack.checkDigest cred
    ((t.usersStore.find cred.username req.toHost).map (·.ha1))).1 = .success at hverify
  cases huser : t.usersStore.find cred.username req.toHost with
  | none =>
    rw [huser] at hverify
    exact absurd hverify (hstack cred)
  | some user =>
    rw [huser] at hverify
    exact ⟨user, rfl, hverify⟩

theorem find_row {u : UserDb} {username realm : String} {user : SipUser}
    (h : (getUsersSnapshot u).find username realm = some user) :
    ∃ row ∈ u.rows, row.username = username ∧ row.realm = realm ∧ row.enabled = true ∧
      row.user = user := by
  obtain ⟨row, hrow, rfl⟩ := List.mem_map.mp (List.mem_of_find?_eq_some h)
  have hp := List.find?_some h
  simp only [Bool.and_eq_true, decide_eq_true_eq] at hp
  exact ⟨row, hrow, hp.1.2, hp.2, hp.1.1, rfl⟩

/-- Only statements change the users, and only REGISTERs and the sweep the bindings. -/
theorem step_cases {e : Event E} (hstep : s.step S e = some t) :
    (t.users = s.users ∨ ∃ e, s.users.step S.md5 e = some t.users) ∧
      (t.bindings = s.bindings ∨ (∃ now, t.bindings = s.bindings.sweep now) ∨
        ∃ clock req, e = .register clock req ∧
          t.bindings = (Registrar.handle (s.registrar S) clock req s.bindings).store) := by
  cases e with
  | routes r =>
    rw [System.step, System.serveRoutes] at hstep
    split_ifs at hstep
    · obtain ⟨_, -, rfl⟩ := Option.map_eq_some_iff.mp hstep
      exact ⟨.inl rfl, .inl rfl⟩
    · cases hstep
      exact ⟨.inl rfl, .inl rfl⟩
  | users e =>
    obtain ⟨users, husers, hrest⟩ := Option.bind_eq_some_iff.mp hstep
    split_ifs at hrest
    · cases hrest
      exact ⟨.inr ⟨e, husers⟩, .inl rfl⟩
    · obtain ⟨_, -, rfl⟩ := Option.map_eq_some_iff.mp hrest
      exact ⟨.inr ⟨e, husers⟩, .inl rfl⟩
  | channel e =>
    rw [System.step] at hstep
    split_ifs at hstep
    obtain ⟨_, -, rfl⟩ := Option.map_eq_some_iff.mp hstep
    exact ⟨.inl rfl, .inl rfl⟩
  | register clock req =>
    cases hstep
    exact ⟨.inl rfl, .inr (.inr ⟨clock, req, rfl, rfl⟩)⟩
  | sweep now =>
    cases hstep
    exact ⟨.inl rfl, .inr (.inl ⟨now, rfl⟩)⟩

theorem History.hashed (h : History S d u es states routes users) (hdir : u.Represents S.md5 dir) (k : ℕ) :
    (states k).users.Hashed S.md5 dir := by
  induction k with
  | zero =>
    have hvalid := (h.tracks 0).users.valid
    rw [h.start] at hvalid ⊢
    exact UserApi.start_hashed hvalid hdir
  | succ k ih =>
    rcases h.steps k with hsame | ⟨e, -, he⟩
    · rw [hsame]
      exact ih
    · rcases (step_cases he).1 with hsame | ⟨e, he⟩
      · rw [hsame]
        exact ih
      · exact UserApi.step_hashed (h.tracks k).users ih he

/-- What makes a REGISTER's binding an authenticated one. -/
theorem History.authenticated (h : History S d u es states routes users)
    (hstack : ChecksAccounts S.stack) (hdir : u.Represents S.md5 dir) {k : ℕ}
    (hfind : (Registrar.handle ((states k).registrar S) clock req (states k).bindings).store.find aor uri =
      some b) (hnew : (states k).bindings.find aor uri ≠ some b) :
    Authenticated S dir (states k) (states (users k)) clock req aor uri b := by
  obtain ⟨haor, hcontact⟩ := handle_registered hfind hnew
  obtain ⟨⟨cred, hcred⟩, hnamed, -, -⟩ := Registrar.handle_find
    (h := show (Registrar.handle ((states k).registrar S) clock req (states k).bindings).store.find aor uri ≠
      (states k).bindings.find aor uri by rw [hfind]; exact Ne.symm hnew)
  obtain ⟨hmem, hrealm, user, huser, hdigest⟩ := verified_account hstack hcred
  refine ⟨haor, hcontact, hnamed, cred, hmem, hrealm, ?_⟩
  rcases h.shown k with hunserved | hshown
  · -- without a snapshot there are no accounts
    rw [System.usersStore, hunserved.2] at huser
    cases huser
  · rw [hshown.users] at huser
    obtain ⟨row, hrow, husername, hrowRealm, henabled, rfl⟩ := find_row huser
    exact ⟨row, hrow, husername, hrowRealm, henabled, hdigest, (h.hashed hdir _).rows row hrow⟩

theorem History.registered (h : History S d u es states routes users) (hstack : ChecksAccounts S.stack)
    (hdir : u.Represents S.md5 dir) {n : ℕ} (hfind : (states n).bindings.find aor uri = some b) :
    Registered S d u dir es aor uri b := by
  induction n with
  | zero =>
    rw [h.start] at hfind
    cases hfind
  | succ n ih =>
    by_cases hold : (states n).bindings.find aor uri = some b
    · exact ih hold
    rcases h.steps n with hsame | ⟨e, hes, he⟩
    · rw [hsame] at hfind
      exact absurd hfind hold
    rcases (step_cases he).2 with hsame | ⟨now, hswept⟩ | ⟨clock, req, rfl, hhandled⟩
    · rw [hsame] at hfind
      exact absurd hfind hold
    · rw [hswept, BindingStore.find_sweep, Option.filter_eq_some_iff] at hfind
      exact absurd hfind.1 hold
    · rw [hhandled] at hfind
      exact ⟨n, clock, req, states n, hes, h.run n, users n, h.users_le n, states (users n),
        h.run (users n), h.authenticated hstack hdir hfind hold⟩

theorem History.last (h : History S d u es states routes users)
    (hrun : Runs.run (System.step S) (.start S d u) es = some s) : s = states es.length := by
  have hlast := h.run es.length
  rw [List.take_length, hrun] at hlast
  exact Option.some.inj hlast

/-- **Who registered a binding.**  In every run of requests, statements, REGISTERs, sweeps
and messages in any order, every binding on file is a contact of a REGISTER of the run,
sent to its address of record in the name of its user; and this carried a credential
that was verified for an account of the users of an earlier moment, which was enabled, by
the hash of a password that the API had been given for that account. -/
theorem bindings_authenticated (hd : d.Valid) (htable : d.version.isSome) (hu : u.Valid)
    (hdir : u.Represents S.md5 dir) (hstack : ChecksAccounts S.stack)
    (hrun : run (System.step S) (.start S d u) es = some s) :
    ∀ aor uri b, s.bindings.find aor uri = some b → Registered S d u dir es aor uri b := by
  obtain ⟨states, routes, users, h⟩ := exists_history hd htable hu hrun
  intro aor uri b hb
  rw [h.last hrun] at hb
  exact h.registered hstack hdir hb

end Registrations

/-! ### Where a call goes -/

section Calls

def codecName : RouteCodec → String
  | .g722 => "G722"
  | .pcmu => "PCMU"
  | .pcma => "PCMA"

/-- A rule as the engine reads it. -/
def toRoute (rule : SipRouteRule) : Route where
  uri := rule.uri
  sipAddress := rule.sipAddress
  port := rule.port.toNat
  codec := rule.codec.map codecName

/-- The stores that routing looks into. -/
def System.routing (now : ℤ) (s : System) : Routing where
  hasRegistrar := true
  isLocalDomain := s.usersStore.isLocalDomain
  knowsUser user host := (s.usersStore.find user host).isSome
  findPreferred user host :=
    (s.bindings.findPreferred (makeAor user host) now).map fun b => (b.sourceAddress, b.sourcePort.toNat)
  findRoute requestUri := (s.routesStore.findRoute requestUri).map toRoute
  extractUriHost := ExtractUtils.readHost
  extractUriUser := ExtractUtils.readUser

/-- The caller's offer has the codec. -/
def Offered (env : Env) (codec : RouteCodec) : Prop :=
  ∃ sdp, Sdp.parse env.sdp env.callerOfferSdp = some sdp ∧
    ∃ info ∈ Sdp.extractAllAudioCodecs env.sdp sdp, info.name = codecName codec

/-- What comes of a rule: it points at the engine itself, or asks for a codec the caller
does not offer, or gives a destination. -/
inductive Routed (env : Env) (rule : SipRouteRule) : RouteResolution → Prop
  | loop (haddress : rule.sipAddress = env.localIp) (hport : rule.port.toNat = env.sipPort) :
      Routed env rule (SetupActions.notFound .loop)
  | mismatch (hother : ¬ (rule.sipAddress = env.localIp ∧ rule.port.toNat = env.sipPort))
      {codec : RouteCodec} (hcodec : rule.codec = some codec) (hoffer : ¬ Offered env codec) :
      Routed env rule (SetupActions.notFound .codecMismatch)
  | found (hother : ¬ (rule.sipAddress = env.localIp ∧ rule.port.toNat = env.sipPort))
      (hoffer : ∀ codec, rule.codec = some codec → Offered env codec) :
      Routed env rule
        { kind := .found
          destination := SetupActions.sipUri (ExtractUtils.readUser rule.uri) rule.sipAddress rule.port.toNat
          requiredCodec := rule.codec.bind fun codec => findSupportedCodecByName (codecName codec) }

/-- The engine has every codec that a rule can ask for. -/
theorem exists_supported (codec : RouteCodec) :
    ∃ supported, findSupportedCodecByName (codecName codec) = some supported ∧
      supported.name = codecName codec := by
  cases codec <;> exact ⟨_, rfl, rfl⟩

theorem any_offered_iff {env : Env} {codec : RouteCodec} {name : String} (hname : name = codecName codec) :
    (((Sdp.parse env.sdp env.callerOfferSdp).map (Sdp.extractAllAudioCodecs env.sdp)).getD []).any
      (·.name = name) = true ↔ Offered env codec := by
  rw [Offered]
  cases Sdp.parse env.sdp env.callerOfferSdp with
  | none => simp
  | some sdp => simp [hname]

theorem routed {env : Env} {now : ℤ} {s : System} (hrouting : env.routing = s.routing now)
    {rule : SipRouteRule} (hfind : s.routesStore.findRoute env.requestUri = some rule) :
    Routed env rule (SetupActions.resolveStaticRoute env) := by
  rw [SetupActions.resolveStaticRoute, hrouting, System.routing]
  dsimp only
  rw [hfind, Option.map_some]
  dsimp only
  split_ifs with hloop
  · simp only [Bool.and_eq_true, decide_eq_true_eq] at hloop
    exact .loop hloop.1 hloop.2
  have hother : ¬ (rule.sipAddress = env.localIp ∧ rule.port.toNat = env.sipPort) := by
    intro h
    refine hloop ?_
    rw [Bool.and_eq_true, decide_eq_true_eq, decide_eq_true_eq]
    exact h
  have huser : env.routing.extractUriUser rule.uri = ExtractUtils.readUser rule.uri := by
    rw [hrouting]
    rfl
  rw [SetupActions.routeWithCodec, toRoute]
  dsimp only
  rw [huser]
  cases hcodec : rule.codec with
  | none =>
    have hfound := Routed.found hother fun codec h => by rw [hcodec] at h; cases h
    rw [hcodec] at hfound
    exact hfound
  | some codec =>
    obtain ⟨supported, hsupported, hname⟩ := exists_supported codec
    rw [Option.map_some]
    dsimp only
    rw [hsupported]
    dsimp only
    split_ifs with hoffer
    · have hfound := Routed.found hother fun codec' h => by
        rw [hcodec, Option.some_inj] at h
        exact h ▸ (any_offered_iff hname).mp hoffer
      rw [hcodec, Option.bind_some, hsupported] at hfound
      exact hfound
    · exact .mismatch hother hcodec fun h => hoffer ((any_offered_iff hname).mpr h)

/-- The URI is that of an enabled account. -/
def HasAccount (b : System) (requestUri : String) : Prop :=
  ∃ row ∈ b.users.db.rows, row.username = ExtractUtils.readUser requestUri ∧
    row.realm = ExtractUtils.readHost requestUri ∧ row.enabled = true

/-- Where a call goes in the state `t`, by the routes of the state `a` and the users of the
state `b`: with an account, to where its phone registered last; otherwise to where the
plan sends it. -/
inductive Resolved (registered : String → String → Binding → Prop) (t a b : System) (now : ℤ) (env : Env) :
    RouteResolution → Prop
  | bound (haccount : HasAccount b env.requestUri) {uri : String} {binding : Binding}
      (hpreferred : t.bindings.findPreferred (CalleeAor.lookupAor env) now = some binding)
      (horigin : registered (CalleeAor.lookupAor env) uri binding) :
      Resolved registered t a b now env
        { kind := .found
          destination := "sip:" ++ ExtractUtils.readUser env.requestUri ++ "@" ++ binding.sourceAddress ++
            ":" ++ toString binding.sourcePort.toNat
          requiredCodec := none }
  | unbound (haccount : HasAccount b env.requestUri)
      (hnone : t.bindings.findPreferred (CalleeAor.lookupAor env) now = none) :
      Resolved registered t a b now env (SetupActions.notFound .failed)
  | planned (hother : ¬ HasAccount b env.requestUri) {rule : SipRouteRule}
      (hrule : a.routes.plan.Chooses env.requestUri rule) {resolution : RouteResolution}
      (hrouted : Routed env rule resolution) : Resolved registered t a b now env resolution
  | unplanned (hother : ¬ HasAccount b env.requestUri)
      (hnone : ∀ p rule, a.routes.plan p = some rule → ¬ RoutePlan.Matches env.requestUri rule) :
      Resolved registered t a b now env (SetupActions.notFound .failed)

theorem isLocalDomain_of_find {store : UsersStore} {username realm : String} {user : SipUser}
    (h : store.find username realm = some user) : store.isLocalDomain realm = true := by
  have hp := List.find?_some h
  simp only [Bool.and_eq_true, decide_eq_true_eq] at hp
  refine List.any_eq_true.mpr ⟨user, List.mem_of_find?_eq_some h, ?_⟩
  simp [hp.1.1, hp.2]

theorem hasAccount_iff {t a b : System} (hshown : Shown t a b) (requestUri : String) :
    HasAccount b requestUri ↔ ∃ user, t.usersStore.find (ExtractUtils.readUser requestUri)
      (ExtractUtils.readHost requestUri) = some user := by
  rw [hshown.users]
  constructor
  · rintro ⟨row, hrow, husername, hrealm, henabled⟩
    rw [← Option.isSome_iff_exists, UsersStore.find, List.find?_isSome]
    exact ⟨row.user, List.mem_map.mpr ⟨row, hrow, rfl⟩, by simp [SipUserRow.user, husername, hrealm, henabled]⟩
  · rintro ⟨user, huser⟩
    obtain ⟨row, hrow, husername, hrealm, henabled, -⟩ := find_row huser
    exact ⟨row, hrow, husername, hrealm, henabled⟩

theorem resolved {registered : String → String → Binding → Prop} {t a b : System} {now : ℤ} {env : Env}
    (hrouting : env.routing = t.routing now) (hshown : Shown t a b)
    (horigin : ∀ aor uri binding, t.bindings.find aor uri = some binding → registered aor uri binding) :
    Resolved registered t a b now env (SetupActions.resolveRoute env) := by
  have haccount := hasAccount_iff hshown env.requestUri
  cases huser : t.usersStore.find (ExtractUtils.readUser env.requestUri)
      (ExtractUtils.readHost env.requestUri) with
  | some user =>
    replace haccount := haccount.mpr ⟨user, huser⟩
    have hreads : CalleeAor.ReadsBindings env.routing t.bindings now := by
      rw [hrouting]
      exact fun _ _ => rfl
    have hlookup := CalleeAor.resolveRoute_lookup hreads (by rw [hrouting]; rfl)
      (by rw [hrouting]; exact isLocalDomain_of_find huser)
      (by rw [hrouting]; exact Option.isSome_iff_exists.mpr ⟨user, huser⟩)
    rw [hlookup]
    cases hpreferred : t.bindings.findPreferred (CalleeAor.lookupAor env) now with
    | none => exact .unbound haccount hpreferred
    | some binding =>
      have hlive := List.mem_of_head? hpreferred
      obtain ⟨⟨uri, hfind⟩, -⟩ := BindingStore.mem_findLive.mp hlive
      rw [hrouting]
      exact .bound haccount hpreferred (horigin _ _ _ hfind)
  | none =>
    have hother : ¬ HasAccount b env.requestUri := by
      rw [haccount, huser]
      simp
    have hstatic : SetupActions.resolveRoute env = SetupActions.resolveStaticRoute env := by
      rw [SetupActions.resolveRoute, if_neg]
      rw [hrouting]
      simp [System.routing, huser]
    rw [hstatic]
    cases hfind : t.routesStore.findRoute env.requestUri with
    | some rule =>
      exact .planned hother ((RoutesStore.findRoute_iff hshown.routes).mp hfind) (routed hrouting hfind)
    | none =>
      rw [SetupActions.resolveStaticRoute, hrouting]
      simp only [System.routing, hfind, Option.map_none]
      exact .unplanned hother ((RoutesStore.findRoute_none_iff hshown.routes).mp hfind)

/-- Without a snapshot there is no account and no route. -/
theorem System.Unserved.resolveRoute_eq {t : System} {now : ℤ} {env : Env} (h : t.Unserved)
    (hrouting : env.routing = t.routing now) :
    SetupActions.resolveRoute env = SetupActions.notFound .failed := by
  have husers : t.usersStore = ⟨[]⟩ := by rw [usersStore, h.2]; rfl
  have hroutes : t.routesStore = ⟨noRoutes⟩ := by rw [routesStore, h.1]; rfl
  have hnone : t.routesStore.findRoute env.requestUri = none := by
    rw [hroutes]
    simp [RoutesStore.findRoute, RoutesStore.flatMap, noRoutes]
  rw [SetupActions.resolveRoute, if_neg, SetupActions.resolveStaticRoute, hrouting]
  · simp [System.routing, hnone]
  · rw [hrouting]
    simp [System.routing, husers, UsersStore.find]

/-- **Calls follow the API.**  In every run of requests, statements, REGISTERs, sweeps and
messages in any order, and for every call after it: before the first snapshot it is not
routed; otherwise, by the routes and the users of earlier moments, a call to an enabled
account goes to its preferred binding, which an authenticated REGISTER of the run has
brought, or nowhere without one; and any other call goes where the first matching rule of
the plan sends it, unless that points at the engine or asks for a codec the caller does
not offer. -/
theorem calls_follow_api {E : Type} {S : Wiring E} {d : RouteDb} {u : UserDb} {dir : Directory}
    {es : List (Event E)} {s : System} (hd : d.Valid) (htable : d.version.isSome) (hu : u.Valid)
    (hdir : u.Represents S.md5 dir) (hstack : ChecksAccounts S.stack)
    (hrun : run (System.step S) (.start S d u) es = some s) {now : ℤ} {env : Env}
    (hrouting : env.routing = s.routing now) :
    (s.Unserved ∧ SetupActions.resolveRoute env = SetupActions.notFound .failed) ∨
      ∃ j k a b, run (System.step S) (.start S d u) (es.take j) = some a ∧
        run (System.step S) (.start S d u) (es.take k) = some b ∧
        Resolved (Registered S d u dir es) s a b now env (SetupActions.resolveRoute env) := by
  obtain ⟨states, routes, users, h⟩ := exists_history hd htable hu hrun
  have hlast := h.last hrun
  rcases h.shown es.length with hunserved | hshown
  · rw [← hlast] at hunserved
    exact .inl ⟨hunserved, hunserved.resolveRoute_eq hrouting⟩
  · rw [← hlast] at hshown
    refine .inr ⟨_, _, _, _, h.run _, h.run _, resolved hrouting hshown fun aor uri binding hfind => ?_⟩
    rw [hlast] at hfind
    exact h.registered hstack hdir hfind

end Calls

/-! ### A phone registers -/

/-- The JSON layer on acknowledgements, and a digest layer that compares a response with
the stored hash. -/
def wiring : Wiring String where
  codec :=
    { serializeEnvelope := fun type => some ("\x7b\"type\":\"" ++ type ++ "\"\x7d")
      parseIncomingMessage := fun raw =>
        if raw = "\x7b\"type\":\"ack\",\"success\":true\x7d" then some (.ack true) else none }
  md5 := UserApi.plainHash
  stack := Registrar.twoAccounts.stack
  config := Registrar.twoAccounts.config
  sink := true
  arrangement := .asListed

theorem wiring_checks : ChecksAccounts wiring.stack := by
  intro cred h
  cases h

/-- The engine connects and gets its snapshot. -/
def connects : List (Event String) :=
  [.channel (.engine .startTask), .channel .accept, .channel (.engine (.opened true)),
    .channel (.controlPlane .startTask), .channel (.controlPlane (.readRoutes 0)),
    .channel (.controlPlane (.readUsers 0)), .channel .send, .channel (.deliver 0)]

def aliceRegisters : Registrar.Request where
  toIsSip := true
  toUser := "alice"
  toHost := "sbc.local"
  authorizations := [⟨"sbc.local", "alice", "md5(alice:sbc.local:old)"⟩]
  contacts := [⟨false, "sip:alice@10.1.1.5:5060", 3600⟩]
  expires := none
  userAgent := none
  callId := "843817637684230"
  cseq := 1826
  sourceAddress := "192.0.2.7"
  sourcePort := 31004

/-- The account is disabled once its phone is registered. -/
def registered : List (Event String) :=
  connects ++ [.register ⟨5, fun _ => 5, 5⟩ aliceRegisters, .users (.select 1 UserApi.disabled),
    .users (.set 0)]

theorem run_registered : ∃ s, run (System.step wiring) (.start wiring RouteDb.seed UserApi.alice) registered = some s ∧
    ¬ s.Unserved ∧ ∃ b, s.bindings.find "alice@sbc.local" "sip:alice@10.1.1.5:5060" = some b := by
  have hrun : (run (System.step wiring) (.start wiring RouteDb.seed UserApi.alice) registered).map (fun s =>
      (s.channel.engine.usersStore.isSome,
        (s.bindings.find "alice@sbc.local" "sip:alice@10.1.1.5:5060").isSome)) = some (true, true) := by
    decide +kernel
  obtain ⟨s, hs, heq⟩ := Option.map_eq_some_iff.mp hrun
  obtain ⟨hserved, hfound⟩ := Prod.ext_iff.mp heq
  refine ⟨s, hs, fun hunserved => ?_, Option.isSome_iff_exists.mp hfound⟩
  rw [show s.channel.engine.usersStore = none from hunserved.2] at hserved
  cases hserved

theorem stores_follow_api_registered :
    ∃ s a b, run (System.step wiring) (.start wiring RouteDb.seed UserApi.alice) registered = some s ∧
      Shown s a b := by
  obtain ⟨s, hs, hserved, -⟩ := run_registered
  obtain ⟨states, hstates, mr, mu, -, -, h⟩ :=
    stores_follow_api RouteDb.seed_valid (by decide) UserApi.alice_valid hs
  have hlast := hstates registered.length
  rw [List.take_length, hs] at hlast
  obtain ⟨-, -, hshown, -⟩ := h registered.length
  rw [← Option.some.inj hlast] at hshown
  exact ⟨s, _, _, hs, hshown.resolve_left hserved⟩

/-- The account has been disabled since. -/
theorem bindings_authenticated_registered :
    ∃ b, Registered wiring RouteDb.seed UserApi.alice UserApi.aliceDirectory registered "alice@sbc.local"
      "sip:alice@10.1.1.5:5060" b := by
  obtain ⟨s, hs, -, b, hb⟩ := run_registered
  exact ⟨b, bindings_authenticated RouteDb.seed_valid (by decide) UserApi.alice_valid
    UserApi.alice_represents wiring_checks hs _ _ b hb⟩

/-- A call to the account. -/
def callAlice (s : System) : Env :=
  { CalleeAor.callTo (CalleeAor.localUri "alice".toList []) with routing := s.routing 6 }

/-- The engine has not been told. -/
theorem calls_follow_api_registered :
    ∃ s a b, run (System.step wiring) (.start wiring RouteDb.seed UserApi.alice) registered = some s ∧
      Resolved (Registered wiring RouteDb.seed UserApi.alice UserApi.aliceDirectory registered) s a b 6
        (callAlice s) (SetupActions.resolveRoute (callAlice s)) := by
  obtain ⟨s, hs, hserved, -⟩ := run_registered
  have hrouting : (callAlice s).routing = s.routing 6 := rfl
  rcases calls_follow_api RouteDb.seed_valid (by decide) UserApi.alice_valid UserApi.alice_represents
    wiring_checks hs hrouting with ⟨hunserved, -⟩ | ⟨_, _, a, b, -, -, hresolved⟩
  · exact absurd hunserved hserved
  · exact ⟨s, a, b, hs, hresolved⟩

end Provisioning

end SbcEngine
