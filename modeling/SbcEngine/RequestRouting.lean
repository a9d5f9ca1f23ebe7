/-
Requests outside a dialog: who answers them.

Every request that PJSIP does not absorb itself comes to `onRxRequest`.  It is
answered there without a transaction, or it is an INVITE for which a session is
created; from then on the session answers it through its invite session.

* `SipRequestActions.resolveReplacement`, `createCall` — an INVITE and its ways
  out, each with the status it is answered with;
* `Options` — the machine that answers OPTIONS;
* `MessageRouter.onRxRequest` — the dispatch on the method;
* `onRxRequest_manager` — to the calls, this is `CallManager.processInvite`;
* `Exit`, `onRxRequest_exit` — every request is answered, handed to a new session,
  or dropped;
* `served_once_iff` — exactly the requests with the Call-ID of a live session are
  dropped, as far as they get to be compared with it.

Design notes: a request carries PJSIP's verdicts on it (of the verifier of
Replaces headers, of the dialog and invite modules), so that a quantifier over
requests is one over all verdicts.  The OPTIONS machine is kept between requests
and is reset by each.  What a new session answers is not counted among the
responses of the router.
-/
import SbcEngine.CallRegistry
import SbcEngine.Machine
import SbcEngine.RegisterAnswers

namespace SbcEngine

/-! ### Requests -/

/-- The parts of a Replaces header the engine reads. -/
structure ReplacesHeader where
  /-- `replaces_has_single_dialog_tags` -/
  singleDialogTags : Bool
  earlyOnly : Bool
  deriving DecidableEq, Repr

/-- The status of a final response. -/
abbrev FinalStatus := { code : ℤ // 200 ≤ code }

/-- What `pjsip_replaces_verify_request` returns. -/
inductive ReplacesVerification where
  /-- It may have made a response to refuse the request with. -/
  | failed (response : Option FinalStatus)
  /-- The dialog that is named, if there is a header. -/
  | ok (dialog : Option ℕ)

/-- What PJSIP has on the dialog that is named and on that of the other leg. -/
structure DialogFacts where
  /-- `pjsip_dlg_get_inv_session` of the two. -/
  matchedInvite : Bool
  destinationInvite : Bool
  /-- Call-ID, tags and target of the other one are there. -/
  identified : Bool
  /-- They are not empty. -/
  nonempty : Bool
  /-- The target can be printed. -/
  targetPrints : Bool
  deriving DecidableEq, Repr

def DialogFacts.complete (facts : DialogFacts) : Bool :=
  facts.matchedInvite && facts.destinationInvite && facts.identified && facts.nonempty &&
    facts.targetPrints

structure RxRequest where
  method : String
  callId : String
  /-- `pjsip_rdata_get_dlg` -/
  dialog : Option ℕ
  replaces : Option ReplacesHeader
  verification : ReplacesVerification
  dialogs : DialogFacts
  /-- `pjsip_inv_verify_request` succeeds. -/
  inviteVerified : Bool
  maxForwards : Option UInt32
  /-- The body, empty if there is none. -/
  sdp : String
  /-- `pjsip_dlg_create_uas_and_inc_lock`, `pjsip_inv_create_uas` and
  `pjsip_dlg_add_usage` succeed. -/
  dialogCreated : Bool
  invCreated : Bool
  usageAdded : Bool
  /-- The invite session PJSIP creates, and the surroundings of the new call. -/
  inv : InvSession
  pj : Pjsip
  /-- What a REGISTER is read for. -/
  register : Registrar.Request

namespace SipRequestActions

/-- `responds`: there is an endpoint and it can create and address a response. -/
def respondStateless (responds : Bool) (code : ℤ) : List ℤ := if responds then [code] else []

/-! ### Replacements -/

/-- The session whose dialog is named, and the other leg of it. -/
def resolveDialog (dialog : ℕ) (header : ReplacesHeader) (facts : DialogFacts) (m : CallManager) :
    Except ℤ (ℕ × ReplacementTarget) :=
  match (m.findByDialog dialog).bind fun id => (m.objects id).map fun s => (id, s) with
  | none => .error 481
  | some (id, s) =>
    if !facts.matchedInvite then .error 481
    else
      match s.legOfDialog dialog with
      | none => .error 481
      | some leg =>
        if (s.handles (other leg)).isNone then .error 481
        else
          let destination := s.live.core.legs (other leg)
          match (if facts.destinationInvite then destination.inv else none) with
          | none => .error 481
          | some inv =>
            if destination.disconnected then .error 603
            else
              match CallManager.replacementRejectionCode (other leg) inv.state header.earlyOnly with
              | some code => .error code
              | none =>
                if !facts.identified then .error 481
                else if !facts.nonempty then .error 481
                else if !facts.targetPrints then .error 481
                else .ok (id, { replacedSessionId := s.callId, matchedDialogIsUac := leg = .callee })

/-- The call an INVITE asks to replace, or the status it is refused with. -/
def resolveReplacement (req : RxRequest) (m : CallManager) :
    Except ℤ (Option (ℕ × ReplacementTarget)) :=
  if req.replaces.any (!·.singleDialogTags) then .error 400
  else
    match req.verification with
    | .failed (some response) => .error response
    | .failed none => .error 500
    | .ok none => .ok none
    | .ok (some dialog) =>
      match req.replaces with
      | none => .error 500
      | some header => (resolveDialog dialog header req.dialogs m).map some

/-! ### Calls -/

/-- What the call manager needs to know of the header. -/
def replacesOf (req : RxRequest) : CallManager.Replaces :=
  if req.replaces.any (!·.singleDialogTags) then .refused
  else
    match req.verification, req.replaces with
    | .failed _, _ => .refused
    | .ok none, _ => .absent
    | .ok (some _), none => .refused
    | .ok (some dialog), some header => .verified dialog header.earlyOnly req.dialogs.complete

/-- The INVITE as the call manager sees it. -/
def inviteOf (req : RxRequest) : CallManager.Invite where
  callId := req.callId
  pj := { req.pj with env := { req.pj.env with callerOfferSdp := req.sdp } }
  inv := req.inv
  replaces := replacesOf req
  accepted := req.inviteVerified && req.maxForwards ≠ some 0 && req.sdp ≠ "" &&
    req.dialogCreated && req.invCreated && req.usageAdded

/-- The responses to an INVITE, and the manager with the session created for it. -/
def createCall (responds : Bool) (req : RxRequest) (m : CallManager) :
    List ℤ × Option CallManager :=
  match resolveReplacement req m with
  | .error code => (respondStateless responds code, none)
  | .ok target =>
    if req.callId = "" then (respondStateless responds 400, none)
    -- taken for a retransmission, which the transaction layer answers
    else if (m.findByCallId req.callId).isSome then ([], none)
    else if !req.inviteVerified then (respondStateless responds 400, none)
    else if req.maxForwards = some 0 then (respondStateless responds 483, none)
    else if req.sdp = "" then (respondStateless responds 400, none)
    else if !req.dialogCreated then (respondStateless responds 500, none)
    else if !req.invCreated then (respondStateless responds 500, none)
    else if !req.usageAdded then (respondStateless responds 500, none)
    else ([], some (m.opened (inviteOf req) target))

/-- A request of a live dialog does not get here, so it is taken for one when its
Call-ID is that of a session. -/
def handleUnmatchedDialogRequest (responds : Bool) (req : RxRequest) (m : CallManager) : List ℤ :=
  if (m.findByCallId req.callId).isSome then [] else respondStateless responds 481

end SipRequestActions

/-! ### OPTIONS -/

namespace Options

inductive State where
  | idle
  | responding
  | done
  deriving DecidableEq, Repr

inductive Event where
  | messageReceived
  | responseSent
  deriving DecidableEq, Repr

structure OptionsActions where
  /-- `rdata_` is set. -/
  hasRequest : Bool
  responses : List ℤ

def sendOptionsResponse (responds : Bool) (a : OptionsActions) : OptionsActions :=
  if responds && a.hasRequest then { a with responses := a.responses ++ [200] } else a

def cleanup (a : OptionsActions) : OptionsActions := { a with hasRequest := false }

def react (responds : Bool) :
    State × OptionsActions → Event → Option ((State × OptionsActions) × List Event)
  | (.idle, a), .messageReceived => some ((.responding, sendOptionsResponse responds a), [.responseSent])
  | (.responding, a), .responseSent => some ((.done, cleanup a), [])
  | _, _ => none

def weight : Event → ℕ
  | .messageReceived => 2
  | .responseSent => 1

def machine (responds : Bool) : Machine (State × OptionsActions) Event where
  react := react responds
  weight := weight
  weight_pos e := by cases e <;> simp [weight]
  lighter := by
    rintro ⟨st, a⟩ e c' fired h
    cases st <;> cases e <;> cases h <;> simp [weight]

/-- A machine that has been reset answers and is done. -/
theorem process_idle (responds : Bool) (a : OptionsActions) :
    (machine responds).process (.idle, a) .messageReceived =
      ((.done, cleanup (sendOptionsResponse responds a)), true) := rfl

end Options

/-! ### The router -/

/-- What outlives a request. -/
structure RouterState where
  manager : CallManager
  bindings : BindingStore
  options : Options.State

/-- The state after a request, the responses the router has sent, and whether the
module owns the request. -/
structure RequestOutcome where
  state : RouterState
  responses : List ℤ
  owned : Bool

namespace MessageRouter

open SipRequestActions

section Requests

variable (R : Registrar.RegistrarActions) (clock : Registrar.Clock) (req : RxRequest)
  (s : RouterState)

/-- The setup machine of the new session runs on the request. -/
def processInvite : RequestOutcome :=
  match createCall R.stack.responds req s.manager with
  | (responses, none) => ⟨s, responses, true⟩
  | (responses, some m) =>
    match m.objects s.manager.nextSession with
    | none => ⟨{ s with manager := m }, responses, true⟩
    | some session =>
      let started := Reentry.invited session.pj req.inv
      ⟨{ s with manager := m.settle s.manager.nextSession session started }, responses, true⟩

def processOptions : RequestOutcome :=
  let r := (Options.machine R.stack.responds).process
    (.idle, { hasRequest := true, responses := [] }) .messageReceived
  ⟨{ s with options := r.1.1 }, r.1.2.responses, true⟩

def processRegister : RequestOutcome :=
  let r := Registrar.handle R clock req.register s.bindings
  ⟨{ s with bindings := r.store }, r.responses.map (·.status), true⟩

/-- A request that changes nothing. -/
def answerWith (responses : List ℤ) : RequestOutcome := ⟨s, responses, true⟩

def onRxRequest : RequestOutcome :=
  if req.method = "ACK" then answerWith s []
  else if req.method = "CANCEL" then
    answerWith s (handleUnmatchedDialogRequest R.stack.responds req s.manager)
  else if req.replaces.isSome && (req.method ≠ "INVITE" || req.dialog.isSome) then
    answerWith s (respondStateless R.stack.responds 400)
  -- the usages of the dialog own all methods but REFER
  else if req.dialog.isSome then ⟨s, [], req.method = "REFER"⟩
  else if req.method = "INVITE" then processInvite R req s
  else if req.method = "OPTIONS" then processOptions R s
  else if req.method = "REGISTER" then processRegister R clock req s
  else if req.method = "BYE" then
    answerWith s (handleUnmatchedDialogRequest R.stack.responds req s.manager)
  else if req.method = "REFER" then answerWith s (respondStateless R.stack.responds 481)
  else answerWith s (respondStateless R.stack.responds 405)

end Requests

/-! ### The calls -/

/-- To the calls it is the `resolve_replacement` of the call manager. -/
theorem resolveDialog_toOption (dialog : ℕ) (header : ReplacesHeader) (facts : DialogFacts)
    (m : CallManager) : (resolveDialog dialog header facts m).toOption =
      m.resolveDialog dialog header.earlyOnly facts.complete := by
  obtain ⟨matched, found, identified, nonempty, prints⟩ := facts
  rw [SipRequestActions.resolveDialog, CallManager.resolveDialog]
  cases hid : m.findByDialog dialog with
  | none => rfl
  | some id =>
    cases hs : m.objects id with
    | none => simp [hs, Except.toOption]
    | some s =>
      simp only [hs, Option.bind_some, Option.map_some, Option.bind_eq_bind]
      cases matched with
      | false => simp [DialogFacts.complete, Except.toOption]
      | true =>
        cases hleg : s.legOfDialog dialog with
        | none => simp [Except.toOption]
        | some leg =>
          cases hhandle : s.handles (other leg) with
          | none => simp [Except.toOption, hhandle]
          | some handle =>
            cases found with
            | false => simp [Except.toOption, hhandle, DialogFacts.complete]
            | true =>
              cases hinv : (s.live.core.legs (other leg)).inv with
              | none => simp [Except.toOption, hhandle, hinv]
              | some inv =>
                -- what is left are the checks of the other leg, in the same order
                cases hdisc : (s.live.core.legs (other leg)).disconnected with
                | true => simp [Except.toOption, hhandle, hinv, hdisc]
                | false =>
                  cases hcode : CallManager.replacementRejectionCode (other leg) inv.state
                      header.earlyOnly with
                  | some code => simp [Except.toOption, hhandle, hinv, hdisc, hcode]
                  | none =>
                    cases identified <;> cases nonempty <;> cases prints <;>
                      simp [Except.toOption, hhandle, hinv, hdisc, hcode, DialogFacts.complete]

theorem resolveReplacement_toOption (req : RxRequest) (m : CallManager) :
    (resolveReplacement req m).toOption = m.resolveReplacement (replacesOf req) := by
  rw [SipRequestActions.resolveReplacement, replacesOf]
  split
  · rfl
  · cases hverify : req.verification with
    | failed response => cases response <;> rfl
    | ok dialog =>
      cases dialog with
      | none => rfl
      | some dialog =>
        cases hheader : req.replaces with
        | none => rfl
        | some header =>
          show ((resolveDialog dialog header req.dialogs m).map some).toOption =
            (m.resolveDialog dialog header.earlyOnly req.dialogs.complete).map some
          rw [← resolveDialog_toOption]
          cases resolveDialog dialog header req.dialogs m <;> rfl

/-- If the request is refused, then with a final response. -/
def RefusesFinally {α : Type} : Except ℤ α → Prop
  | .error code => 200 ≤ code
  | .ok _ => True

theorem RefusesFinally.map {α β : Type} {x : Except ℤ α} (h : RefusesFinally x) (f : α → β) :
    RefusesFinally (x.map f) := by
  cases x with
  | error code => exact h
  | ok a => trivial

theorem replacementRejectionCode_final {leg : Leg} {state : InvState} {earlyOnly : Bool} {code : ℤ}
    (h : CallManager.replacementRejectionCode leg state earlyOnly = some code) : 200 ≤ code := by
  cases state <;> cases leg <;> cases earlyOnly <;> cases h <;> omega

theorem resolveDialog_final (dialog : ℕ) (header : ReplacesHeader) (facts : DialogFacts)
    (m : CallManager) : RefusesFinally (resolveDialog dialog header facts m) := by
  have hgone : ∀ {α : Type}, RefusesFinally (.error 481 : Except ℤ α) := by
    intro α
    show (200 : ℤ) ≤ 481
    omega
  rw [SipRequestActions.resolveDialog]
  split
  · exact hgone
  · split
    · exact hgone
    · split
      · exact hgone
      · split
        · exact hgone
        · dsimp only
          split
          · exact hgone
          · split
            · show (200 : ℤ) ≤ 603
              omega
            · split
              · next code hcode => exact replacementRejectionCode_final hcode
              · split
                · exact hgone
                · split
                  · exact hgone
                  · split
                    · exact hgone
                    · trivial

theorem resolveReplacement_final (req : RxRequest) (m : CallManager) :
    RefusesFinally (resolveReplacement req m) := by
  rw [SipRequestActions.resolveReplacement]
  split
  · show (200 : ℤ) ≤ 400
    omega
  · split
    · next response _ => exact response.2
    · show (200 : ℤ) ≤ 500
      omega
    · trivial
    · split
      · show (200 : ℤ) ≤ 500
        omega
      · exact (resolveDialog_final _ _ _ m).map some

/-- The ways out of `create_call`, and what the call manager does then. -/
inductive CallCreation (responds : Bool) (req : RxRequest) (m : CallManager) :
    List ℤ × Option CallManager → Prop
  | refused {code : ℤ} (hfinal : 200 ≤ code) (hsame : m.processInvite (inviteOf req) = m)
      (hcompared : (∃ target, resolveReplacement req m = .ok target) → req.callId ≠ "" →
        m.findByCallId req.callId = none) :
      CallCreation responds req m (respondStateless responds code, none)
  | ignored {target : Option (ℕ × ReplacementTarget)}
      (hresolve : resolveReplacement req m = .ok target) (hcallId : req.callId ≠ "")
      (hlive : (m.findByCallId req.callId).isSome = true)
      (hsame : m.processInvite (inviteOf req) = m) : CallCreation responds req m ([], none)
  | created {target : Option (ℕ × ReplacementTarget)} {session : CallSession}
      (hnew : m.findByCallId req.callId = none)
      (hsession : session.callId = req.callId)
      (hobject : (m.opened (inviteOf req) target).objects m.nextSession = some session)
      (hsettle : m.processInvite (inviteOf req) = (m.opened (inviteOf req) target).settle
        m.nextSession session (Reentry.invited session.pj req.inv)) :
      CallCreation responds req m ([], some (m.opened (inviteOf req) target))

theorem createCall_creation (responds : Bool) (req : RxRequest) (m : CallManager) :
    CallCreation responds req m (createCall responds req m) := by
  have hoption := resolveReplacement_toOption req m
  have hfinal := resolveReplacement_final req m
  rw [createCall]
  cases hresolve : resolveReplacement req m with
  | error code =>
    rw [hresolve] at hoption hfinal
    refine .refused hfinal ?_ ?_
    · have hnone : m.resolveReplacement (inviteOf req).replaces = none := hoption.symm
      rw [CallManager.processInvite, hnone]
    · rintro ⟨target, htarget⟩
      rw [hresolve] at htarget
      cases htarget
  | ok target =>
    rw [hresolve] at hoption
    have hsome : m.resolveReplacement (inviteOf req).replaces = some target := hoption.symm
    have hsame : (req.callId = "" ∨ (m.findByCallId req.callId).isSome = true ∨
        (inviteOf req).accepted = false) → m.processInvite (inviteOf req) = m := by
      intro hnot
      rw [CallManager.processInvite, hsome]
      refine if_pos ?_
      show (decide (req.callId = "") || (m.findByCallId req.callId).isSome ||
        !(inviteOf req).accepted) = true
      rcases hnot with h | h | h <;> simp [h]
    have hrefused : ∀ {code : ℤ}, 200 ≤ code → m.findByCallId req.callId = none →
        (inviteOf req).accepted = false →
        CallCreation responds req m (respondStateless responds code, none) :=
      fun hcode hnew haccepted => .refused hcode (hsame (.inr (.inr haccepted))) fun _ _ => hnew
    dsimp only
    by_cases hempty : req.callId = ""
    · rw [if_pos hempty]
      exact .refused (by omega) (hsame (.inl hempty)) fun _ hne => (hne hempty).elim
    rw [if_neg hempty]
    by_cases hlive : (m.findByCallId req.callId).isSome = true
    · rw [if_pos hlive]
      exact .ignored hresolve hempty hlive (hsame (.inr (.inl hlive)))
    rw [if_neg hlive]
    have hnew : m.findByCallId req.callId = none := by simpa using hlive
    split_ifs with hverified hforwards hsdp hdialog hinv husage
    · have hfalse : req.inviteVerified = false := by simpa using hverified
      exact hrefused (by omega) hnew (by simp [inviteOf, hfalse])
    · exact hrefused (by omega) hnew (by simp [inviteOf, hforwards])
    · exact hrefused (by omega) hnew (by simp [inviteOf, hsdp])
    · have hfalse : req.dialogCreated = false := by simpa using hdialog
      exact hrefused (by omega) hnew (by simp [inviteOf, hfalse])
    · have hfalse : req.invCreated = false := by simpa using hinv
      exact hrefused (by omega) hnew (by simp [inviteOf, hfalse])
    · have hfalse : req.usageAdded = false := by simpa using husage
      exact hrefused (by omega) hnew (by simp [inviteOf, hfalse])
    · simp only [Bool.not_eq_true, Bool.not_eq_false'] at hverified hdialog hinv husage
      have hok : (decide (req.callId = "") || (m.findByCallId req.callId).isSome ||
          !(inviteOf req).accepted) = false := by
        simp [inviteOf, hempty, hnew, hverified, hforwards, hsdp, hdialog, hinv, husage]
      obtain ⟨session, rfl, hobject, hsettle⟩ := m.processInvite_created (inviteOf req) hsome hok
      exact .created hnew rfl hobject hsettle

theorem processInvite_manager (R : Registrar.RegistrarActions) (req : RxRequest)
    (s : RouterState) :
    (processInvite R req s).state.manager = s.manager.processInvite (inviteOf req) := by
  have hcreation := createCall_creation R.stack.responds req s.manager
  rw [processInvite]
  generalize createCall R.stack.responds req s.manager = created at hcreation ⊢
  cases hcreation with
  | refused _ hsame _ => exact hsame.symm
  | ignored _ _ _ hsame => exact hsame.symm
  | created _ _ hobject hsettle =>
    dsimp only
    rw [hobject]
    exact hsettle.symm

/-- Of the requests outside a dialog the calls see their INVITEs and nothing else. -/
theorem onRxRequest_manager (R : Registrar.RegistrarActions) (clock : Registrar.Clock)
    (req : RxRequest) (s : RouterState) (hdialog : req.dialog = none) :
    (onRxRequest R clock req s).state.manager =
      if req.method = "INVITE" then s.manager.processInvite (inviteOf req) else s.manager := by
  rw [onRxRequest, hdialog]
  by_cases hinvite : req.method = "INVITE"
  · rw [if_pos hinvite, if_neg (by rw [hinvite]; decide), if_neg (by rw [hinvite]; decide),
      if_neg (by simp [hinvite]), if_neg (by simp), if_pos hinvite]
    exact processInvite_manager R req s
  · rw [if_neg hinvite]
    split_ifs <;> rfl

/-! ### Ways out -/

/-- The Replaces header, if there is one, names a dialog of a session whose other
leg can be replaced. -/
def Resolvable (req : RxRequest) (m : CallManager) : Prop :=
  (∀ header ∈ req.replaces, header.singleDialogTags = true) ∧
    match req.verification with
    | .failed _ => False
    | .ok none => True
    | .ok (some dialog) => ∃ header ∈ req.replaces, ∃ id session leg inv,
        m.findByDialog dialog = some id ∧ m.objects id = some session ∧
        session.legOfDialog dialog = some leg ∧ (session.handles (other leg)).isSome ∧
        (session.live.core.legs (other leg)).inv = some inv ∧
        (session.live.core.legs (other leg)).disconnected = false ∧
        CallManager.replacementRejectionCode (other leg) inv.state header.earlyOnly = none ∧
        req.dialogs.complete = true

theorem resolveDialog_isSome_iff (m : CallManager) (dialog : ℕ) (earlyOnly complete : Bool) :
    (m.resolveDialog dialog earlyOnly complete).isSome ↔ ∃ id session leg inv,
      m.findByDialog dialog = some id ∧ m.objects id = some session ∧
      session.legOfDialog dialog = some leg ∧ (session.handles (other leg)).isSome ∧
      (session.live.core.legs (other leg)).inv = some inv ∧
      (session.live.core.legs (other leg)).disconnected = false ∧
      CallManager.replacementRejectionCode (other leg) inv.state earlyOnly = none ∧
      complete = true := by
  rw [Option.isSome_iff_exists]
  simp only [CallManager.resolveDialog, Option.bind_eq_bind, Option.bind_eq_some_iff]
  constructor
  · rintro ⟨target, id, hid, session, hs, leg, hleg, handle, hhandle, inv, hinv, hchecks⟩
    split at hchecks
    · cases hchecks
    · next hok =>
      simp only [Bool.or_eq_true, Bool.not_eq_true', not_or, Bool.not_eq_true,
        Bool.not_eq_false, Option.isSome_eq_false_iff, Option.isNone_iff_eq_none] at hok
      exact ⟨id, session, leg, inv, hid, hs, hleg, by rw [hhandle]; rfl, hinv, hok.1.1, hok.1.2,
        hok.2⟩
  · rintro ⟨id, session, leg, inv, hid, hs, hleg, hhandle, hinv, hdisc, hcode, hcomplete⟩
    obtain ⟨handle, hhandle⟩ := Option.isSome_iff_exists.mp hhandle
    refine ⟨(id, { replacedSessionId := session.callId, matchedDialogIsUac := leg = .callee }),
      id, hid, session, hs, leg, hleg, handle, hhandle, inv, hinv, ?_⟩
    rw [if_neg (by simp [hdisc, hcode, hcomplete])]

theorem resolvable_iff (req : RxRequest) (m : CallManager) :
    Resolvable req m ↔ ∃ target, resolveReplacement req m = .ok target := by
  have hok : (∃ target, resolveReplacement req m = .ok target) ↔
      (m.resolveReplacement (replacesOf req)).isSome := by
    rw [← resolveReplacement_toOption]
    cases resolveReplacement req m <;> simp [Except.toOption]
  rw [hok, Resolvable, replacesOf]
  cases hheader : req.replaces with
  | none =>
    rw [if_neg (by simp)]
    cases hverify : req.verification with
    | failed response => simp [CallManager.resolveReplacement]
    | ok dialog => cases dialog <;> simp [CallManager.resolveReplacement]
  | some header =>
    cases htags : header.singleDialogTags with
    | false => simp [htags, CallManager.resolveReplacement]
    | true =>
      rw [if_neg (by simp [htags])]
      cases hverify : req.verification with
      | failed response => simp [CallManager.resolveReplacement]
      | ok dialog =>
        cases dialog with
        | none => simp [htags, CallManager.resolveReplacement]
        | some dialog =>
          simp only [CallManager.resolveReplacement, Option.isSome_map, Option.mem_some,
            resolveDialog_isSome_iff]
          simp [htags]

/-- Exactly one final response has been sent. -/
def Answered (o : RequestOutcome) : Prop := (o.responses.filter (200 ≤ ·)).length = 1

/-- A session has been created for the request, and its setup machine started. -/
def Started (req : RxRequest) (s : RouterState) (o : RequestOutcome) : Prop :=
  o.state.manager.nextSession = s.manager.nextSession + 1 ∧
    ∃ session, o.state.manager.objects s.manager.nextSession = some session ∧
      session.callId = req.callId ∧ session.live.setup ≠ .idle

/-- Exactly one of the two has happened. -/
def ServedOnce (req : RxRequest) (s : RouterState) (o : RequestOutcome) : Prop :=
  Answered o ∧ ¬ Started req s o ∨ Started req s o ∧ ¬ Answered o

/-- The request has the Call-ID of a session, and the router gets to look at it: it
is a CANCEL, a BYE without a Replaces header, or an INVITE whose Replaces header, if
it has one, can be resolved. -/
def Dropped (req : RxRequest) (m : CallManager) : Prop :=
  (m.findByCallId req.callId).isSome = true ∧
    (req.method = "CANCEL" ∨ req.method = "BYE" ∧ req.replaces = none ∨
      req.method = "INVITE" ∧ req.callId ≠ "" ∧ Resolvable req m)

/-- What can become of a request. -/
inductive Exit (req : RxRequest) (s : RouterState) (o : RequestOutcome) : Prop
  | answered {code : ℤ} (hfinal : 200 ≤ code) (hresponses : o.responses = [code])
      (hmanager : o.state.manager = s.manager) (hkept : ¬ Dropped req s.manager)
  | started (hresponses : o.responses = []) (hstarted : Started req s o)
      (hkept : ¬ Dropped req s.manager)
  | dropped (hdropped : Dropped req s.manager) (hresponses : o.responses = [])
      (hmanager : o.state.manager = s.manager)

theorem not_started_of_manager {req : RxRequest} {s : RouterState} {o : RequestOutcome}
    (h : o.state.manager = s.manager) : ¬ Started req s o := by
  rintro ⟨hnext, -⟩
  rw [h] at hnext
  omega

theorem Exit.served_iff {req : RxRequest} {s : RouterState} {o : RequestOutcome}
    (h : Exit req s o) : ServedOnce req s o ↔ ¬ Dropped req s.manager := by
  cases h with
  | answered hfinal hresponses hmanager hkept =>
    have hanswered : Answered o := by
      rw [Answered, hresponses]
      simp [hfinal]
    exact ⟨fun _ => hkept, fun _ => .inl ⟨hanswered, not_started_of_manager hmanager⟩⟩
  | started hresponses hstarted hkept =>
    have hunanswered : ¬ Answered o := by
      rw [Answered, hresponses]
      simp
    exact ⟨fun _ => hkept, fun _ => .inr ⟨hstarted, hunanswered⟩⟩
  | dropped hdropped hresponses hmanager =>
    have hunanswered : ¬ Answered o := by
      rw [Answered, hresponses]
      simp
    constructor
    · rintro (⟨hanswered, -⟩ | ⟨hstarted, -⟩)
      · exact (hunanswered hanswered).elim
      · exact (not_started_of_manager hmanager hstarted).elim
    · exact fun hkept => (hkept hdropped).elim

section Exits

variable {R : Registrar.RegistrarActions} {req : RxRequest} {s : RouterState}

/-- The new session is on its way. -/
theorem settled_started {target : Option (ℕ × ReplacementTarget)} {session : CallSession}
    (hsession : session.callId = req.callId) {o : RequestOutcome}
    (hmanager : o.state.manager = (s.manager.opened (inviteOf req) target).settle
      s.manager.nextSession session (Reentry.invited session.pj req.inv)) : Started req s o := by
  obtain ⟨-, -, hopened, -, -⟩ := s.manager.opened_record (inviteOf req) target
  obtain ⟨-, -, hsettled, -⟩ := (s.manager.opened (inviteOf req) target).settle_record
    s.manager.nextSession session (Reentry.invited session.pj req.inv)
  obtain ⟨handles, hobjects⟩ := (s.manager.opened (inviteOf req) target).refresh_objects
    s.manager.nextSession session (Reentry.invited session.pj req.inv)
  rw [Started, hmanager]
  refine ⟨hsettled.trans hopened, { session with
    live := Reentry.invited session.pj req.inv
    handles := handles }, ?_, hsession, ?_⟩
  · rw [CallManager.settle_objects, hobjects]
    exact if_pos rfl
  · exact SetupSm.processEvent_requested (SetupActions.actions session.pj.env) _

variable (hresponds : R.stack.responds = true)
include hresponds

theorem processInvite_exit (hmethod : req.method = "INVITE") :
    Exit req s (processInvite R req s) := by
  have hdropped : Dropped req s.manager → req.callId ≠ "" ∧
      (s.manager.findByCallId req.callId).isSome = true ∧
      ∃ target, resolveReplacement req s.manager = .ok target := by
    rintro ⟨hlive, hcancel | ⟨hbye, -⟩ | ⟨-, hcallId, hresolvable⟩⟩
    · rw [hmethod] at hcancel
      exact absurd hcancel (by decide)
    · rw [hmethod] at hbye
      exact absurd hbye (by decide)
    · exact ⟨hcallId, hlive, (resolvable_iff req s.manager).mp hresolvable⟩
  rw [processInvite]
  have hcreation := createCall_creation R.stack.responds req s.manager
  generalize createCall R.stack.responds req s.manager = created at hcreation ⊢
  cases hcreation with
  | refused hfinal _ hcompared =>
    refine .answered hfinal (by rw [respondStateless, if_pos hresponds]) rfl ?_
    intro h
    obtain ⟨hcallId, hlive, hresolve⟩ := hdropped h
    rw [hcompared hresolve hcallId] at hlive
    cases hlive
  | ignored hresolve hcallId hlive _ =>
    refine .dropped ⟨hlive, .inr (.inr ⟨hmethod, hcallId, ?_⟩)⟩ rfl rfl
    exact (resolvable_iff req s.manager).mpr ⟨_, hresolve⟩
  | created hnew hsession hobject _ =>
    dsimp only
    rw [hobject]
    refine .started rfl (settled_started hsession rfl) ?_
    intro h
    have hlive := (hdropped h).2.1
    rw [hnew] at hlive
    cases hlive

theorem handleUnmatchedDialogRequest_exit
    (hmethod : req.method = "CANCEL" ∨ req.method = "BYE" ∧ req.replaces = none) :
    Exit req s (answerWith s (handleUnmatchedDialogRequest R.stack.responds req s.manager)) := by
  rw [handleUnmatchedDialogRequest]
  by_cases hlive : (s.manager.findByCallId req.callId).isSome = true
  · rw [if_pos hlive]
    refine .dropped ⟨hlive, ?_⟩ rfl rfl
    rcases hmethod with hcancel | hbye
    · exact .inl hcancel
    · exact .inr (.inl hbye)
  · rw [if_neg hlive, respondStateless, if_pos hresponds]
    have hfinal : (200 : ℤ) ≤ 481 := by omega
    exact .answered hfinal rfl rfl fun h => hlive h.1

/-- The methods that are answered with a fixed status. -/
theorem respondStateless_exit {code : ℤ} (hfinal : 200 ≤ code) (hkept : ¬ Dropped req s.manager) :
    Exit req s (answerWith s (respondStateless R.stack.responds code)) :=
  .answered hfinal (by rw [answerWith, respondStateless, if_pos hresponds]) rfl hkept

/-- Every request outside a dialog. -/
theorem onRxRequest_exit (clock : Registrar.Clock) (hdialog : req.dialog = none)
    (hack : req.method ≠ "ACK") : Exit req s (onRxRequest R clock req s) := by
  rw [onRxRequest, if_neg hack]
  by_cases hcancel : req.method = "CANCEL"
  · rw [if_pos hcancel]
    exact handleUnmatchedDialogRequest_exit hresponds (.inl hcancel)
  rw [if_neg hcancel, hdialog]
  by_cases hreplaces : req.replaces.isSome = true ∧ req.method ≠ "INVITE"
  · rw [if_pos (by simp [hreplaces])]
    refine respondStateless_exit hresponds (by omega) ?_
    rintro ⟨-, hcancel' | ⟨-, hnone⟩ | ⟨hinvite, -⟩⟩
    · exact hcancel hcancel'
    · rw [hnone] at hreplaces
      cases hreplaces.1
    · exact hreplaces.2 hinvite
  rw [if_neg (by simpa using hreplaces), if_neg (by simp)]
  by_cases hinvite : req.method = "INVITE"
  · rw [if_pos hinvite]
    exact processInvite_exit hresponds hinvite
  rw [if_neg hinvite]
  -- from here on only a BYE can be dropped
  have hnone : req.replaces = none := by
    by_contra h
    exact hreplaces ⟨Option.isSome_iff_ne_none.mpr h, hinvite⟩
  have hkept : req.method ≠ "BYE" → ¬ Dropped req s.manager := by
    rintro hbye ⟨-, hcancel' | ⟨hbye', -⟩ | ⟨hinvite', -⟩⟩
    · exact hcancel hcancel'
    · exact hbye hbye'
    · exact hinvite hinvite'
  by_cases hoptions : req.method = "OPTIONS"
  · rw [if_pos hoptions, processOptions, Options.process_idle, hresponds]
    exact .answered (Int.le_refl 200) rfl rfl (hkept (by rw [hoptions]; decide))
  rw [if_neg hoptions]
  by_cases hregister : req.method = "REGISTER"
  · rw [if_pos hregister, processRegister]
    obtain ⟨r, hr, hfinal⟩ := Registrar.handle_once hresponds clock req.register s.bindings
    exact .answered hfinal (by dsimp only; rw [hr]; rfl) rfl (hkept (by rw [hregister]; decide))
  rw [if_neg hregister]
  by_cases hbye : req.method = "BYE"
  · rw [if_pos hbye]
    exact handleUnmatchedDialogRequest_exit hresponds (.inr ⟨hbye, hnone⟩)
  rw [if_neg hbye]
  split
  · exact respondStateless_exit hresponds (by omega) (hkept hbye)
  · exact respondStateless_exit hresponds (by omega) (hkept hbye)

end Exits

/-- **When a request is served.**  A request outside a dialog other than an ACK is
answered once or handed to a new session, one of the two, exactly when it is not
dropped for having the Call-ID of a live session. -/
theorem served_once_iff (R : Registrar.RegistrarActions) (clock : Registrar.Clock)
    (req : RxRequest) (s : RouterState) (hresponds : R.stack.responds = true)
    (hdialog : req.dialog = none) (hack : req.method ≠ "ACK") :
    ServedOnce req s (onRxRequest R clock req s) ↔ ¬ Dropped req s.manager :=
  (onRxRequest_exit hresponds clock hdialog hack).served_iff

/-- A plain request outside a dialog, as one of the phones of `phoneEnv` sends it. -/
def phoneRequest (method callId : String) : RxRequest where
  method := method
  callId := callId
  dialog := none
  replaces := none
  verification := .ok none
  dialogs := { matchedInvite := true, destinationInvite := true, identified := true,
               nonempty := true, targetPrints := true }
  inviteVerified := true
  maxForwards := some 70
  sdp := phoneText
  dialogCreated := true
  invCreated := true
  usageAdded := true
  inv := phoneInv
  pj := Reentry.phonePjsip 100
  register := Registrar.foreignRealmFirst

/-- The router while one call, with the Call-ID `a`, is being set up. -/
def busyRouter : RouterState where
  manager := CallManager.run (CallManager.engine 1) (CallManager.initial true none 0)
    [CallManager.phoneInvite "a" (Reentry.phonePjsip 100) .absent]
  bindings := .empty .asListed
  options := .idle

def phoneClock : Registrar.Clock where
  registering := 0
  mirroring _ := 0
  answering := 0

/-- Another call is taken on meanwhile. -/
theorem served_once_other_call :
    (phoneRequest "INVITE" "b").dialog = none ∧
      ServedOnce (phoneRequest "INVITE" "b") busyRouter
        (onRxRequest Registrar.twoAccounts phoneClock (phoneRequest "INVITE" "b") busyRouter) := by
  refine ⟨rfl, (served_once_iff _ _ _ _ rfl rfl (by decide)).mpr ?_⟩
  rintro ⟨hlive, -⟩
  revert hlive
  decide +kernel

/-- **A request is left without a response.**  The Call-ID of a call that is being
set up comes again in a CANCEL, a BYE or an INVITE that belongs to no dialog. -/
theorem reused_callId_unanswered :
    Registrar.twoAccounts.stack.responds = true ∧
      ∀ method ∈ ["CANCEL", "BYE", "INVITE"], (phoneRequest method "a").dialog = none ∧
        ¬ ServedOnce (phoneRequest method "a") busyRouter
          (onRxRequest Registrar.twoAccounts phoneClock (phoneRequest method "a") busyRouter) := by
  refine ⟨rfl, fun method hmethod => ⟨rfl, ?_⟩⟩
  have hlive : (busyRouter.manager.findByCallId "a").isSome = true := by decide +kernel
  have hack : method ≠ "ACK" := by
    rintro rfl
    exact absurd hmethod (by decide)
  rw [(onRxRequest_exit rfl phoneClock rfl hack).served_iff, not_not]
  refine ⟨hlive, ?_⟩
  simp only [List.mem_cons, List.not_mem_nil, or_false] at hmethod
  rcases hmethod with hcancel | hbye | hinvite
  · exact .inl hcancel
  · exact .inr (.inl ⟨hbye, rfl⟩)
  · exact .inr (.inr ⟨hinvite, by simp [phoneRequest], by simp [phoneRequest], trivial⟩)

end MessageRouter

end SbcEngine
