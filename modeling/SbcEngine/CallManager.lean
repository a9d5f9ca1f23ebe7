/-
All calls of the engine: who finds them, who removes them, who ends them.

A `CallSession` is an object with an identity: its Call-ID names it in the map,
and the invite session and dialog of each leg point back to it.  Everything that
happens to the calls comes through `step`.

* `findByCallId`, `findByInv`, `findByDialog` — the lookups;
* `scheduleRemove`, `purgeScheduled` — a session leaves the map, then its object
  is destroyed;
* `createCall`, `resolveReplacement` — an INVITE, which may name a call to
  replace;
* `scan` — the three loops over the map that end calls;
* `run` — a run of the engine, up to its shutdown.

Design notes: objects are named by numbers that are never used again, and so are
the invite sessions PJSIP creates; the dialog of an invite session has its number.
What PJSIP reports inside a request is up to `inside`.  A callback changes its own
session only; what it asks of the manager is carried out when it returns.  The
clocks are read through `Clock`, and a loop that has gone wrong stops the run.
-/
import SbcEngine.ReentrantDialog
import SbcEngine.Traversal

namespace SbcEngine

/-! ### Sessions -/

/-- A `CallSession` object. -/
structure CallSession where
  callId : String
  pj : Pjsip
  live : LiveCall
  /-- The invite session and dialog of each leg. -/
  handles : Leg → Option ℕ

namespace CallSession

/-- One of the legs has this invite session, and so this dialog. -/
def holds (s : CallSession) (handle : ℕ) : Bool :=
  s.handles .caller = some handle || s.handles .callee = some handle

/-- `leg_for`; anything that is not the callee's is taken for the caller's. -/
def legFor (s : CallSession) (inv : ℕ) : Leg :=
  if s.handles .callee = some inv then .callee else .caller

/-- The leg a dialog belongs to, as `resolve_replacement` looks for it. -/
def legOfDialog (s : CallSession) (dialog : ℕ) : Option Leg :=
  if s.handles .caller = some dialog then some .caller
  else if s.handles .callee = some dialog then some .callee
  else none

end CallSession

/-- A replacement that waits to be processed, with the object that queued it. -/
structure PendingReplacement where
  callId : String
  matchedDialogIsUac : Bool
  replacing : ℕ
  deriving DecidableEq, Repr

/-- What happened to the calls, as far as replacements are concerned. -/
inductive Happening where
  /-- A call is set up to replace a session. -/
  | matched (replacing session : ℕ)
  | established (session : ℕ)
  /-- The session was told to end because of a replacing one. -/
  | replaced (replacing session : ℕ)
  deriving DecidableEq, Repr

structure CallManager where
  /-- The objects that have been created and not destroyed. -/
  objects : ℕ → Option CallSession
  /-- `sessions_`, in the order of iteration. -/
  sessions : List (String × ℕ)
  /-- `retired_sessions_` -/
  retired : List ℕ
  pendingReplacements : List PendingReplacement
  /-- Whether the inactivity timer, if there is one, has asked for a scan. -/
  rtpTimer : Option Bool
  /-- `module_id_` is set, here and in the context. -/
  hasModuleId : Bool
  /-- `inv->mod_data[module_id_]` -/
  invData : ℕ → Option ℕ
  /-- `dialog->mod_data[module_id_]` -/
  dialogData : ℕ → Option ℕ
  maxHoldDuration : ℤ
  nextSession : ℕ
  nextHandle : ℕ
  /-- A record of the replacements. -/
  trace : List Happening
  /-- A loop has used an iterator to an erased entry. -/
  faulted : Bool

namespace CallManager

/-- The manager at startup. -/
def initial (hasModuleId : Bool) (rtpTimer : Option Bool) (maxHoldDuration : ℤ) : CallManager where
  objects _ := none
  sessions := []
  retired := []
  pendingReplacements := []
  rtpTimer := rtpTimer
  hasModuleId := hasModuleId
  invData _ := none
  dialogData _ := none
  maxHoldDuration := maxHoldDuration
  nextSession := 0
  nextHandle := 0
  trace := []
  faulted := false

/-! ### Lookups -/

/-- The objects in the map, in the order of iteration. -/
def ids (m : CallManager) : List ℕ := m.sessions.map Prod.snd

def findByCallId (callId : String) (m : CallManager) : Option ℕ := m.sessions.lookup callId

/-- The first session of the map one of whose legs has the handle. -/
def scanByHandle (handle : ℕ) (m : CallManager) : Option ℕ :=
  m.ids.find? fun id => (m.objects id).any (·.holds handle)

def findByInv (inv : ℕ) (m : CallManager) : Option ℕ :=
  if m.hasModuleId then m.invData inv else m.scanByHandle inv

def findByDialog (dialog : ℕ) (m : CallManager) : Option ℕ :=
  if m.hasModuleId then m.dialogData dialog else m.scanByHandle dialog

/-! ### Creating and removing sessions -/

def setObject (id : ℕ) (s : CallSession) (m : CallManager) : CallManager :=
  { m with objects := fun i => if i = id then some s else m.objects i }

/-- `set_inv_caller` and `set_inv_callee`, with an invite session PJSIP has just
created. -/
def setInv (id : ℕ) (leg : Leg) (m : CallManager) : CallManager :=
  match m.objects id with
  | none => m
  | some s =>
    let handle := m.nextHandle
    let claim := fun data : ℕ → Option ℕ =>
      -- both slots are written when there is a module id, none otherwise
      if m.hasModuleId then fun h => if h = handle then some id else data h else data
    { m.setObject id { s with handles := fun l => if l = leg then some handle else s.handles l } with
      invData := claim m.invData
      dialogData := claim m.dialogData
      nextHandle := handle + 1 }

def scheduleRemove (callId : String) (m : CallManager) : CallManager :=
  match m.findByCallId callId with
  | none => m
  | some id =>
    { m with
      retired := m.retired ++ [id]
      sessions := m.sessions.filter (·.1 ≠ callId) }

/-- The retired objects are destroyed, and release the slots of their legs. -/
def purgeScheduled (m : CallManager) : CallManager :=
  let release := fun data : ℕ → Option ℕ =>
    if m.hasModuleId then fun h =>
      if m.retired.any fun id => (m.objects id).any (·.holds h) then none else data h
    else data
  { m with
    objects := fun id => if id ∈ m.retired then none else m.objects id
    invData := release m.invData
    dialogData := release m.dialogData
    retired := [] }

/-! ### Callbacks -/

/-- `schedule_remove` was called: setup or dialog have cleaned up. -/
def removes (before after : LiveCall) : Bool :=
  (!before.core.removeScheduled && after.core.removeScheduled) || before.cleanups < after.cleanups

/-- What the session has queued meanwhile. -/
def queued (id : ℕ) (before after : LiveCall) : List PendingReplacement :=
  (after.core.queuedReplacements.drop before.core.queuedReplacements.length).map fun target =>
    { callId := target.replacedSessionId
      matchedDialogIsUac := target.matchedDialogIsUac
      replacing := id }

/-- Whether the session has become established. -/
def establishes (before after : LiveCall) : Bool :=
  before.setup ≠ .established && after.setup = .established

def record (happenings : List Happening) (m : CallManager) : CallManager :=
  { m with trace := m.trace ++ happenings }

def enqueue (replacements : List PendingReplacement) (m : CallManager) : CallManager :=
  { m with pendingReplacements := m.pendingReplacements ++ replacements }

/-- A session has changed, and may have created the leg of its callee. -/
def refresh (id : ℕ) (s : CallSession) (after : LiveCall) (m : CallManager) : CallManager :=
  let m := m.setObject id { s with live := after }
  -- the callee's leg was created during the callback
  if (after.core.legs .callee).inv.isSome && (s.handles .callee).isNone then m.setInv id .callee
  else m

/-- The manager does what was asked of it while a session changed. -/
def settle (id : ℕ) (s : CallSession) (after : LiveCall) (m : CallManager) : CallManager :=
  let m := m.refresh id s after
  let m := m.record (if establishes s.live after then [.established id] else [])
  let m := m.enqueue (queued id s.live after)
  if removes s.live after then m.scheduleRemove s.callId else m

section Callbacks

variable (inside : Pjsip → Reentry.Callback → Signal → LiveCall → LiveCall)

/-- What a session makes of a callback. -/
def answerOf (s : CallSession) (cb : Reentry.Callback) : LiveCall :=
  Reentry.deliverWith s.pj (inside s.pj cb) s.live cb

def deliverTo (id : ℕ) (cb : Reentry.Callback) (m : CallManager) : CallManager :=
  match m.objects id with
  | none => m
  | some s => m.settle id s (answerOf inside s cb)

/-- The callbacks that come from PJSIP. -/
def external : Reentry.Callback → Bool
  | .replaced _ | .timeout _ | .callError => false
  | _ => true

/-- PJSIP calls back for an invite session. -/
def onCallback (inv : ℕ) (cb : Leg → Reentry.Callback) (m : CallManager) : CallManager :=
  match m.findByInv inv with
  | none => m
  | some id =>
    match m.objects id with
    | none => m
    | some s =>
      if external (cb (s.legFor inv)) then m.deliverTo inside id (cb (s.legFor inv)) else m

end Callbacks

/-! ### INVITEs -/

/-- What PJSIP makes of the Replaces header of an INVITE. -/
inductive Replaces where
  | absent
  /-- It has several tags, or its verification fails. -/
  | refused
  /-- It names a dialog; `complete` says that both dialogs of the call have their
  invite sessions, and the other one its identifiers and target. -/
  | verified (dialog : ℕ) (earlyOnly complete : Bool)

/-- `replacement_rejection_code` for the invite session of a leg; that of the
caller is a UAS. -/
def replacementRejectionCode (leg : Leg) (state : InvState) (earlyOnly : Bool) : Option ℤ :=
  match state with
  | .disconnected => some 603
  -- an early session must be a UAS, which the callee's is not
  | .early => if leg = .caller then none else some 481
  | .connecting | .confirmed => if earlyOnly then some 486 else none
  | _ => some 481

/-- The session and the leg a Replaces header names, when the other leg can take
the call. -/
def resolveDialog (dialog : ℕ) (earlyOnly complete : Bool) (m : CallManager) :
    Option (ℕ × ReplacementTarget) := do
  let id ← m.findByDialog dialog
  let s ← m.objects id
  let leg ← s.legOfDialog dialog
  let _ ← s.handles (other leg)
  let destination := s.live.core.legs (other leg)
  let inv ← destination.inv
  -- the leg that stays must be able to take the call
  if destination.disconnected || (replacementRejectionCode (other leg) inv.state earlyOnly).isSome ||
      !complete then none
  else some (id, { replacedSessionId := s.callId, matchedDialogIsUac := leg = .callee })

/-- `resolve_replacement`: nothing when the INVITE has been refused. -/
def resolveReplacement (m : CallManager) : Replaces → Option (Option (ℕ × ReplacementTarget))
  | .absent => some none
  | .refused => none
  | .verified dialog earlyOnly complete => (m.resolveDialog dialog earlyOnly complete).map some

/-- An initial INVITE. -/
structure Invite where
  callId : String
  pj : Pjsip
  /-- The invite session PJSIP creates for the caller. -/
  inv : InvSession
  replaces : Replaces
  /-- It can be served: it has an offer, hops left, and a dialog can be created. -/
  accepted : Bool

/-- A session before the setup machine hears of the INVITE. -/
def created (inv : InvSession) : LiveCall where
  setup := .idle
  session := SetupActions.created inv
  dialog := .active
  reinvite := ReinviteHandler.idle
  refer := ReferHandler.idle
  queue := []
  cleanups := 0
  overrun := false

/-- `create_session` for a Call-ID that is not in the map. -/
def createSession (s : CallSession) (m : CallManager) : CallManager :=
  { m.setObject m.nextSession s with
    sessions := m.sessions ++ [(s.callId, m.nextSession)]
    nextSession := m.nextSession + 1 }

/-- The object for an INVITE, and what its setup machine makes of the request. -/
def invitedSession (hasModuleId : Bool) (invite : Invite)
    (target : Option (ℕ × ReplacementTarget)) : CallSession where
  callId := invite.callId
  pj := { invite.pj with
    env := { invite.pj.env with replacementTarget := target.map Prod.snd }
    hasModuleId := hasModuleId }
  live := created invite.inv
  handles _ := none

/-- `create_call`, then the request is processed. -/
def processInvite (invite : Invite) (m : CallManager) : CallManager :=
  match m.resolveReplacement invite.replaces with
  | none => m
  | some target =>
    -- a Call-ID that is in the map is taken for a retransmission
    if invite.callId = "" || (m.findByCallId invite.callId).isSome || !invite.accepted then m
    else
      let id := m.nextSession
      let s := invitedSession m.hasModuleId invite target
      let m := (m.createSession s).setInv id .caller
      let m := m.record (target.toList.map fun t => .matched id t.1)
      match m.objects id with
      | none => m
      | some s => m.settle id s (Reentry.invited s.pj invite.inv)

/-! ### Replacements -/

/-- Whether a session is told to end: a setup is cancelled for its callee's sake
only, an established call must not be ending already. -/
def replaceable (matchedDialogIsUac : Bool) (x : LiveCall) : Bool :=
  if x.setup ≠ .established then matchedDialogIsUac else x.canTerminate

section Replacements

variable (inside : Pjsip → Reentry.Callback → Signal → LiveCall → LiveCall)

def terminateReplacedSession (r : PendingReplacement) (m : CallManager) : CallManager :=
  match m.findByCallId r.callId with
  | none => m
  | some id =>
    match m.objects id with
    | none => m
    | some s =>
      if replaceable r.matchedDialogIsUac s.live then
        (m.record [.replaced r.replacing id]).deliverTo inside id (.replaced r.matchedDialogIsUac)
      else m

def processPendingReplacements (m : CallManager) : CallManager :=
  m.pendingReplacements.foldl (fun m r => m.terminateReplacedSession inside r)
    { m with pendingReplacements := [] }

end Replacements

/-! ### Scans -/

/-- What the clocks say of the sessions: no packet for the inactivity timeout, and
on hold for the longest time allowed. -/
structure Clock where
  idle : ℕ → Bool
  heldLong : ℕ → Bool

/-- The loops over the map that end calls. -/
inductive Scan where
  | rtpInactivity
  | holdTimeout
  | shutdown
  deriving DecidableEq, Repr

def rtpInactivityExpired (clock : Clock) (id : ℕ) (x : LiveCall) : Bool :=
  !x.core.mediaIsHeld && clock.idle id

def holdTimeoutExpired (maxHoldDuration : ℤ) (clock : Clock) (id : ℕ) (x : LiveCall) : Bool :=
  0 < maxHoldDuration && x.core.holdStarted && clock.heldLong id

/-- Whether a scan ends a session. -/
def qualifies (maxHoldDuration : ℤ) (clock : Clock) (scan : Scan) (id : ℕ) (x : LiveCall) : Bool :=
  match scan with
  | .rtpInactivity =>
    x.setup = .established && rtpInactivityExpired clock id x && x.canTerminate
  | .holdTimeout =>
    x.setup = .established && holdTimeoutExpired maxHoldDuration clock id x && x.canTerminate
  -- the shutdown asks neither for an established call nor for a clock
  | .shutdown => x.canTerminate

/-- The event with which a scan ends a session. -/
def Scan.event : Scan → Reentry.Callback
  | .rtpInactivity => .timeout .rtpInactivity
  | .holdTimeout => .timeout .holdTimeout
  | .shutdown => .callError

section Scans

variable (inside : Pjsip → Reentry.Callback → Signal → LiveCall → LiveCall)

/-- The map, and the body of a scan at an entry. -/
def traversal (clock : Clock) (scan : Scan) : Traversal CallManager ℕ where
  nodes := ids
  body id m :=
    match m.objects id with
    | none => (m, false)
    | some s =>
      if qualifies m.maxHoldDuration clock scan id s.live then
        (m.deliverTo inside id scan.event, true)
      else (m, false)

/-- The loop of a scan: only the one for hold timeouts moves on before it ends the
session it is at. -/
def scan (clock : Clock) (kind : Scan) (m : CallManager) : Traversal.Progress CallManager ℕ :=
  match kind with
  | .holdTimeout => (traversal inside clock .holdTimeout).eagerFor m
  | kind => (traversal inside clock kind).rangeFor m

/-- The manager after a scan. -/
def scanned (clock : Clock) (kind : Scan) (m : CallManager) : CallManager :=
  let r := m.scan inside clock kind
  { r.world with faulted := r.world.faulted || r.fault }

/-- There is something to scan for. -/
def due (m : CallManager) : Scan → Bool
  | .rtpInactivity => m.rtpTimer = some true
  | _ => true

def processPendingRtpInactivity (clock : Clock) (m : CallManager) : CallManager :=
  if m.due .rtpInactivity then
    scanned inside clock .rtpInactivity { m with rtpTimer := some false }
  else m

def processPendingHoldTimeouts (clock : Clock) (m : CallManager) : CallManager :=
  m.scanned inside clock .holdTimeout

def terminateEstablishedCalls (m : CallManager) : CallManager :=
  { m.scanned inside { idle := fun _ => false, heldLong := fun _ => false } .shutdown with
    rtpTimer := none }

/-- `process_pending_media_events`, which runs after the events of PJSIP. -/
def processPendingMediaEvents (clock : Clock) (m : CallManager) : CallManager :=
  let m := m.processPendingRtpInactivity inside clock
  if m.faulted then m
  else
    -- nothing runs after a loop that has lost its iterator
    let m := if 0 < m.maxHoldDuration then m.processPendingHoldTimeouts inside clock else m
    (m.processPendingReplacements inside).purgeScheduled

end Scans

/-! ### Runs -/

/-- Everything that comes from outside. -/
inductive Input where
  | invite (invite : Invite)
  | callback (inv : ℕ) (cb : Leg → Reentry.Callback)
  | rtpTimerTicked
  | mediaEvents (clock : Clock)
  | shutdown

def Input.isShutdown : Input → Bool
  | .shutdown => true
  | _ => false

section Runs

variable (inside : Pjsip → Reentry.Callback → Signal → LiveCall → LiveCall)

def step (m : CallManager) : Input → CallManager
  | .invite invite => m.processInvite invite
  | .callback inv cb => m.onCallback inside inv cb
  | .rtpTimerTicked => { m with rtpTimer := m.rtpTimer.map fun _ => true }
  | .mediaEvents clock => m.processPendingMediaEvents inside clock
  | .shutdown => m.terminateEstablishedCalls inside

/-- A run of the engine.  Nothing comes after the shutdown or a fault. -/
def run : CallManager → List Input → CallManager
  | m, [] => m
  | m, i :: is =>
    -- the engine stops with the shutdown
    if m.faulted then m else if i.isShutdown then m.step inside i else run (m.step inside i) is

end Runs

/-! ### Plain calls -/

/-- The engine as it is: a report inside a request is handled on the spot, nested at
most `n` deep. -/
def engine (n : ℕ) : Pjsip → Reentry.Callback → Signal → LiveCall → LiveCall :=
  fun pj => Reentry.reports pj n

/-- One of the phones of `phoneEnv` calls another. -/
def phoneInvite (callId : String) (pj : Pjsip) (replaces : Replaces) : Input :=
  .invite { callId := callId, pj := pj, inv := phoneInv, replaces := replaces, accepted := true }

/-- The call whose legs have the handles `caller` and `callee` is answered. -/
def phonesAnswer (caller callee : ℕ) : List Input :=
  [.callback callee fun leg =>
     .invStateChanged leg .connecting 0 "" { statusCode := 200, sdp := phoneText },
   .callback caller fun leg => .invStateChanged leg .confirmed 0 "" { statusCode := 0, sdp := "" }]

/-- No packet has come for a long time, and every hold is over. -/
def lateClock : Clock where
  idle _ := true
  heldLong _ := true

end CallManager

end SbcEngine
